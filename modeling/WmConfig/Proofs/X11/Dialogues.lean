import WmConfig.X11.Display
import WmConfig.X11.Recorded

/-! # Dialogues with a server

What a dialogue with a recorded server adds to the transcript, next to what it comes to
(`Dialogue.Adds`). The rules follow how dialogues are put together: a request adds one exchange, and
a dialogue that goes on after another one adds its exchanges to those before. Recording changes
nothing: the dialogue comes to what it comes to with the server itself. -/

namespace WmConfig.X11

namespace Dialogue

variable {σ α β : Type}

/-! ### Holding a dialogue -/

@[simp] theorem hold_pure (a : α) (state : σ) :
    (pure a : Dialogue σ α).hold state = (.ok a, state) := rfl

@[simp] theorem hold_throw (failure : Failure) (state : σ) :
    (throw failure : Dialogue σ α).hold state = (.error failure, state) := rfl

theorem hold_bind (x : Dialogue σ α) (f : α → Dialogue σ β) (state : σ) :
    (x >>= f).hold state =
      match x.hold state with
      | (.ok a, state') => (f a).hold state'
      | (.error failure, state') => (.error failure, state') := by
  unfold hold
  rw [ExceptT.run_bind, StateT.run_bind]
  rcases (StateT.run (ExceptT.run x) state : Id _) with ⟨_ | a, state'⟩ <;> rfl

/-- What a reply is taken for. -/
def answer (context : String) : Option α → Except Failure α
  | some a => .ok a
  | none => .error (.because context)

theorem hold_ask (server : Server σ) (r : Request) (context : String) (state : σ) :
    (ask server r context).hold state =
      (answer context (server.reply? r state).1, (server.reply? r state).2) := by
  have hget : (modifyGet (server.reply? r) : Dialogue σ (Option r.Reply)).hold state =
      (.ok (server.reply? r state).1, (server.reply? r state).2) := rfl
  unfold ask
  rw [hold_bind, hget]
  cases (server.reply? r state).1 <;> rfl

theorem hold_ask_recorded (server : Server σ) (r : Request) (context : String)
    (t : Transcript σ) :
    (ask server.recorded r context).hold t =
      (answer context (server.reply? r t.state).1, ⟨(server.reply? r t.state).2,
        t.exchanges ++ [⟨r, (server.reply? r t.state).1⟩]⟩) :=
  hold_ask server.recorded r context t

/-! ### Exchanges -/

/-- With a recorded server the dialogue comes to the same as with the server, and adds exchanges to
the transcript that are as described. -/
def Adds (described : List Exchange → Except Failure α → Prop) (x : Dialogue (Transcript σ) α)
    (y : Dialogue σ α) : Prop :=
  ∀ t : Transcript σ, ∃ es, described es (y.hold t.state).1 ∧
    x.hold t = ((y.hold t.state).1, ⟨(y.hold t.state).2, t.exchanges ++ es⟩)

section Rules
variable {x : Dialogue (Transcript σ) α} {y : Dialogue σ α}
  {f : α → Dialogue (Transcript σ) β} {g : α → Dialogue σ β}
  {described : List Exchange → Except Failure α → Prop}

theorem Adds.pure {a : α} (h : described [] (.ok a)) :
    Adds described (pure a : Dialogue (Transcript σ) α) (pure a : Dialogue σ α) :=
  fun t => ⟨[], h, by simp⟩

theorem Adds.throw {failure : Failure} (h : described [] (.error failure)) :
    Adds described (throw failure : Dialogue (Transcript σ) α) (throw failure : Dialogue σ α) :=
  fun t => ⟨[], h, by simp⟩

/-- The first exchange of a dialogue decides whether it goes on. -/
theorem Adds.ask_bind {server : Server σ} {r : Request} {context : String}
    {f : r.Reply → Dialogue (Transcript σ) α} {g : r.Reply → Dialogue σ α}
    (refused : ∀ state, (server.reply? r state).1 = none →
      described [⟨r, none⟩] (.error (.because context)))
    (replied : ∀ reply, Adds (fun es => described (⟨r, some reply⟩ :: es)) (f reply) (g reply)) :
    Adds described (Dialogue.ask server.recorded r context >>= f)
      (Dialogue.ask server r context >>= g) := by
  intro t
  rw [hold_bind, hold_bind, hold_ask_recorded, hold_ask]
  rcases hreply : server.reply? r t.state with ⟨_ | reply, state⟩
  · exact ⟨[⟨r, none⟩], refused t.state (by rw [hreply]), rfl⟩
  · obtain ⟨es, hes, hf⟩ := replied reply ⟨state, t.exchanges ++ [⟨r, some reply⟩]⟩
    refine ⟨⟨r, some reply⟩ :: es, hes, hf.trans ?_⟩
    rw [List.append_assoc]
    rfl

theorem Adds.ask {server : Server σ} {r : Request} {context : String}
    {described : List Exchange → Except Failure r.Reply → Prop}
    (refused : ∀ state, (server.reply? r state).1 = none →
      described [⟨r, none⟩] (.error (.because context)))
    (replied : ∀ reply, described [⟨r, some reply⟩] (.ok reply)) :
    Adds described (Dialogue.ask server.recorded r context) (Dialogue.ask server r context) := by
  have h := Adds.ask_bind (f := Pure.pure) (g := Pure.pure) refused fun reply =>
    .pure (replied reply)
  rwa [bind_pure, bind_pure] at h

theorem Adds.bind {first : List Exchange → Except Failure α → Prop}
    {described : List Exchange → Except Failure β → Prop} (hx : Adds first x y)
    (failed : ∀ es failure, first es (.error failure) → described es (.error failure))
    (went : ∀ es a, first es (.ok a) → Adds (fun fs => described (es ++ fs)) (f a) (g a)) :
    Adds described (x >>= f) (y >>= g) := by
  intro t
  obtain ⟨es, hes, hx⟩ := hx t
  rw [hold_bind, hold_bind, hx]
  rcases hy : y.hold t.state with ⟨failure | a, state⟩
  · rw [hy] at hes
    exact ⟨es, failed es failure hes, rfl⟩
  · rw [hy] at hes
    obtain ⟨fs, hfs, hf⟩ := went es a hes ⟨state, t.exchanges ++ es⟩
    refine ⟨es ++ fs, hfs, hf.trans ?_⟩
    rw [List.append_assoc]

/-- The exchanges of a dialogue that has been held. -/
theorem Adds.exists_exchanges (h : Adds described x y) {t t' : Transcript σ}
    {a : Except Failure α} (hold : x.hold t = (a, t')) :
    ∃ es, described es a ∧ t'.exchanges = t.exchanges ++ es ∧
      y.hold t.state = (a, t'.state) := by
  obtain ⟨es, hes, hx⟩ := h t
  obtain ⟨rfl, rfl⟩ := Prod.mk.inj (hold.symm.trans hx)
  exact ⟨es, hes, rfl, rfl⟩

end Rules

end Dialogue

end WmConfig.X11
