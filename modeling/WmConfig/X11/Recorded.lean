import WmConfig.X11.Protocol

/-! # Recorded servers

A recorded server answers like another one and keeps a transcript of the requests and the replies. -/

namespace WmConfig.X11

/-- A request and the reply to it, which is missing if an error came back. -/
structure Exchange where
  /-- The request. -/
  request : Request
  /-- The reply. -/
  reply? : Option request.Reply

/-- The state of another server, and the exchanges so far in order. -/
structure Transcript (σ : Type) where
  /-- The state. -/
  state : σ
  /-- The exchanges. -/
  exchanges : List Exchange := []

/-- The server with its exchanges recorded. -/
def Server.recorded {σ : Type} (server : Server σ) : Server (Transcript σ) where
  setup := server.setup
  reply? r t :=
    ((server.reply? r t.state).1,
      ⟨(server.reply? r t.state).2, t.exchanges ++ [⟨r, (server.reply? r t.state).1⟩]⟩)

end WmConfig.X11
