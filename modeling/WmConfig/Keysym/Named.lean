/-! # Named keysyms

The names of keys that are not written as a single character, with their codes. Names are
case-sensitive; several names may share a code. -/

namespace WmConfig.Keysym

/-- Keys of a terminal. -/
def terminalKeys : List (String × UInt32) := [
  ("BackSpace", 0xff08), ("Tab", 0xff09), ("Linefeed", 0xff0a), ("Clear", 0xff0b),
  ("Return", 0xff0d), ("Pause", 0xff13), ("Scroll_Lock", 0xff14), ("Sys_Req", 0xff15),
  ("Escape", 0xff1b), ("Delete", 0xffff)]

/-- Cursor movement. -/
def cursorKeys : List (String × UInt32) := [
  ("Home", 0xff50), ("Left", 0xff51), ("Up", 0xff52), ("Right", 0xff53), ("Down", 0xff54),
  ("Prior", 0xff55), ("Page_Up", 0xff55), ("Next", 0xff56), ("Page_Down", 0xff56), ("End", 0xff57),
  ("Begin", 0xff58)]

/-- Miscellaneous functions. -/
def functionKeys : List (String × UInt32) := [
  ("Select", 0xff60), ("Print", 0xff61), ("Execute", 0xff62), ("Insert", 0xff63), ("Undo", 0xff65),
  ("Redo", 0xff66), ("Menu", 0xff67), ("Find", 0xff68), ("Cancel", 0xff69), ("Help", 0xff6a),
  ("Break", 0xff6b), ("Num_Lock", 0xff7f)]

/-- Input methods and keyboard groups. -/
def inputMethodKeys : List (String × UInt32) := [
  ("Multi_key", 0xff20), ("Codeinput", 0xff37), ("SingleCandidate", 0xff3c),
  ("MultipleCandidate", 0xff3d), ("PreviousCandidate", 0xff3e), ("ISO_Lock", 0xfe01),
  ("ISO_Level2_Latch", 0xfe02), ("ISO_Level3_Shift", 0xfe03), ("ISO_Level3_Latch", 0xfe04),
  ("ISO_Level3_Lock", 0xfe05), ("ISO_Group_Latch", 0xfe06), ("ISO_Group_Lock", 0xfe07),
  ("ISO_Next_Group", 0xfe08), ("ISO_Next_Group_Lock", 0xfe09), ("ISO_Prev_Group", 0xfe0a),
  ("ISO_Prev_Group_Lock", 0xfe0b), ("ISO_First_Group", 0xfe0c), ("ISO_First_Group_Lock", 0xfe0d),
  ("ISO_Last_Group", 0xfe0e), ("ISO_Last_Group_Lock", 0xfe0f), ("ISO_Level5_Shift", 0xfe11),
  ("ISO_Level5_Latch", 0xfe12), ("ISO_Level5_Lock", 0xfe13), ("ISO_Left_Tab", 0xfe20),
  ("ISO_Move_Line_Up", 0xfe21), ("ISO_Move_Line_Down", 0xfe22), ("ISO_Partial_Line_Up", 0xfe23),
  ("ISO_Partial_Line_Down", 0xfe24), ("ISO_Partial_Space_Left", 0xfe25),
  ("ISO_Partial_Space_Right", 0xfe26), ("ISO_Set_Margin_Left", 0xfe27),
  ("ISO_Set_Margin_Right", 0xfe28), ("ISO_Release_Margin_Left", 0xfe29),
  ("ISO_Release_Margin_Right", 0xfe2a), ("ISO_Release_Both_Margins", 0xfe2b),
  ("ISO_Fast_Cursor_Left", 0xfe2c), ("ISO_Fast_Cursor_Right", 0xfe2d),
  ("ISO_Fast_Cursor_Up", 0xfe2e), ("ISO_Fast_Cursor_Down", 0xfe2f),
  ("ISO_Continuous_Underline", 0xfe30), ("ISO_Discontinuous_Underline", 0xfe31),
  ("ISO_Emphasize", 0xfe32), ("ISO_Center_Object", 0xfe33), ("ISO_Enter", 0xfe34),
  ("ISO_Group_Shift", 0xff7e), ("Mode_switch", 0xff7e), ("script_switch", 0xff7e)]

/-- The keypad. -/
def keypadKeys : List (String × UInt32) := [
  ("KP_Space", 0xff80), ("KP_Tab", 0xff89), ("KP_Enter", 0xff8d), ("KP_F1", 0xff91),
  ("KP_F2", 0xff92), ("KP_F3", 0xff93), ("KP_F4", 0xff94), ("KP_Home", 0xff95),
  ("KP_Left", 0xff96), ("KP_Up", 0xff97), ("KP_Right", 0xff98), ("KP_Down", 0xff99),
  ("KP_Prior", 0xff9a), ("KP_Page_Up", 0xff9a), ("KP_Next", 0xff9b), ("KP_Page_Down", 0xff9b),
  ("KP_End", 0xff9c), ("KP_Begin", 0xff9d), ("KP_Insert", 0xff9e), ("KP_Delete", 0xff9f),
  ("KP_Multiply", 0xffaa), ("KP_Add", 0xffab), ("KP_Separator", 0xffac), ("KP_Subtract", 0xffad),
  ("KP_Decimal", 0xffae), ("KP_Divide", 0xffaf), ("KP_0", 0xffb0), ("KP_1", 0xffb1),
  ("KP_2", 0xffb2), ("KP_3", 0xffb3), ("KP_4", 0xffb4), ("KP_5", 0xffb5), ("KP_6", 0xffb6),
  ("KP_7", 0xffb7), ("KP_8", 0xffb8), ("KP_9", 0xffb9), ("KP_Equal", 0xffbd)]

/-- Modifier keys. -/
def modifierKeys : List (String × UInt32) := [
  ("Shift_L", 0xffe1), ("Shift_R", 0xffe2), ("Control_L", 0xffe3), ("Control_R", 0xffe4),
  ("Caps_Lock", 0xffe5), ("Shift_Lock", 0xffe6), ("Meta_L", 0xffe7), ("Meta_R", 0xffe8),
  ("Alt_L", 0xffe9), ("Alt_R", 0xffea), ("Super_L", 0xffeb), ("Super_R", 0xffec),
  ("Hyper_L", 0xffed), ("Hyper_R", 0xffee)]

/-- ASCII punctuation. -/
def punctuationKeys : List (String × UInt32) := [
  ("space", 0x0020), ("exclam", 0x0021), ("quotedbl", 0x0022), ("numbersign", 0x0023),
  ("dollar", 0x0024), ("percent", 0x0025), ("ampersand", 0x0026), ("apostrophe", 0x0027),
  ("parenleft", 0x0028), ("parenright", 0x0029), ("asterisk", 0x002a), ("plus", 0x002b),
  ("comma", 0x002c), ("minus", 0x002d), ("period", 0x002e), ("slash", 0x002f), ("colon", 0x003a),
  ("semicolon", 0x003b), ("less", 0x003c), ("equal", 0x003d), ("greater", 0x003e),
  ("question", 0x003f), ("at", 0x0040), ("bracketleft", 0x005b), ("backslash", 0x005c),
  ("bracketright", 0x005d), ("asciicircum", 0x005e), ("underscore", 0x005f), ("grave", 0x0060),
  ("braceleft", 0x007b), ("bar", 0x007c), ("braceright", 0x007d), ("asciitilde", 0x007e)]

/-- The upper half of Latin-1, with older spellings at the end. -/
def latinKeys : List (String × UInt32) := [
  ("nobreakspace", 0x00a0), ("exclamdown", 0x00a1), ("cent", 0x00a2), ("sterling", 0x00a3),
  ("currency", 0x00a4), ("yen", 0x00a5), ("brokenbar", 0x00a6), ("section", 0x00a7),
  ("diaeresis", 0x00a8), ("copyright", 0x00a9), ("ordfeminine", 0x00aa), ("guillemotleft", 0x00ab),
  ("notsign", 0x00ac), ("hyphen", 0x00ad), ("registered", 0x00ae), ("macron", 0x00af),
  ("degree", 0x00b0), ("plusminus", 0x00b1), ("twosuperior", 0x00b2), ("threesuperior", 0x00b3),
  ("acute", 0x00b4), ("mu", 0x00b5), ("paragraph", 0x00b6), ("periodcentered", 0x00b7),
  ("cedilla", 0x00b8), ("onesuperior", 0x00b9), ("masculine", 0x00ba), ("guillemotright", 0x00bb),
  ("onequarter", 0x00bc), ("onehalf", 0x00bd), ("threequarters", 0x00be), ("questiondown", 0x00bf),
  ("Agrave", 0x00c0), ("Aacute", 0x00c1), ("Acircumflex", 0x00c2), ("Atilde", 0x00c3),
  ("Adiaeresis", 0x00c4), ("Aring", 0x00c5), ("AE", 0x00c6), ("Ccedilla", 0x00c7),
  ("Egrave", 0x00c8), ("Eacute", 0x00c9), ("Ecircumflex", 0x00ca), ("Ediaeresis", 0x00cb),
  ("Igrave", 0x00cc), ("Iacute", 0x00cd), ("Icircumflex", 0x00ce), ("Idiaeresis", 0x00cf),
  ("ETH", 0x00d0), ("Ntilde", 0x00d1), ("Ograve", 0x00d2), ("Oacute", 0x00d3),
  ("Ocircumflex", 0x00d4), ("Otilde", 0x00d5), ("Odiaeresis", 0x00d6), ("multiply", 0x00d7),
  ("Oslash", 0x00d8), ("Ugrave", 0x00d9), ("Uacute", 0x00da), ("Ucircumflex", 0x00db),
  ("Udiaeresis", 0x00dc), ("Yacute", 0x00dd), ("THORN", 0x00de), ("ssharp", 0x00df),
  ("agrave", 0x00e0), ("aacute", 0x00e1), ("acircumflex", 0x00e2), ("atilde", 0x00e3),
  ("adiaeresis", 0x00e4), ("aring", 0x00e5), ("ae", 0x00e6), ("ccedilla", 0x00e7),
  ("egrave", 0x00e8), ("eacute", 0x00e9), ("ecircumflex", 0x00ea), ("ediaeresis", 0x00eb),
  ("igrave", 0x00ec), ("iacute", 0x00ed), ("icircumflex", 0x00ee), ("idiaeresis", 0x00ef),
  ("eth", 0x00f0), ("ntilde", 0x00f1), ("ograve", 0x00f2), ("oacute", 0x00f3),
  ("ocircumflex", 0x00f4), ("otilde", 0x00f5), ("odiaeresis", 0x00f6), ("division", 0x00f7),
  ("oslash", 0x00f8), ("ugrave", 0x00f9), ("uacute", 0x00fa), ("ucircumflex", 0x00fb),
  ("udiaeresis", 0x00fc), ("yacute", 0x00fd), ("thorn", 0x00fe), ("ydiaeresis", 0x00ff),
  ("guillemetleft", 0x00ab), ("guillemetright", 0x00bb), ("ordmasculine", 0x00ba), ("Eth", 0x00d0),
  ("Ooblique", 0x00d8), ("Thorn", 0x00de), ("ooblique", 0x00f8)]

/-- Multimedia keys of keyboard vendors. -/
def vendorKeys : List (String × UInt32) := [
  ("XF86ModeLock", 0x1008ff01), ("XF86MonBrightnessUp", 0x1008ff02),
  ("XF86MonBrightnessDown", 0x1008ff03), ("XF86KbdLightOnOff", 0x1008ff04),
  ("XF86KbdBrightnessUp", 0x1008ff05), ("XF86KbdBrightnessDown", 0x1008ff06),
  ("XF86MonBrightnessCycle", 0x1008ff07), ("XF86Standby", 0x1008ff10),
  ("XF86AudioLowerVolume", 0x1008ff11), ("XF86AudioMute", 0x1008ff12),
  ("XF86AudioRaiseVolume", 0x1008ff13), ("XF86AudioPlay", 0x1008ff14),
  ("XF86AudioStop", 0x1008ff15), ("XF86AudioPrev", 0x1008ff16), ("XF86AudioNext", 0x1008ff17),
  ("XF86HomePage", 0x1008ff18), ("XF86Mail", 0x1008ff19), ("XF86Start", 0x1008ff1a),
  ("XF86Search", 0x1008ff1b), ("XF86AudioRecord", 0x1008ff1c), ("XF86Calculator", 0x1008ff1d),
  ("XF86Memo", 0x1008ff1e), ("XF86ToDoList", 0x1008ff1f), ("XF86Calendar", 0x1008ff20),
  ("XF86PowerDown", 0x1008ff21), ("XF86ContrastAdjust", 0x1008ff22), ("XF86RockerUp", 0x1008ff23),
  ("XF86RockerDown", 0x1008ff24), ("XF86RockerEnter", 0x1008ff25), ("XF86Back", 0x1008ff26),
  ("XF86Forward", 0x1008ff27), ("XF86Stop", 0x1008ff28), ("XF86Refresh", 0x1008ff29),
  ("XF86PowerOff", 0x1008ff2a), ("XF86WakeUp", 0x1008ff2b), ("XF86Eject", 0x1008ff2c),
  ("XF86ScreenSaver", 0x1008ff2d), ("XF86WWW", 0x1008ff2e), ("XF86Sleep", 0x1008ff2f),
  ("XF86Favorites", 0x1008ff30), ("XF86AudioPause", 0x1008ff31), ("XF86AudioMedia", 0x1008ff32),
  ("XF86MyComputer", 0x1008ff33), ("XF86VendorHome", 0x1008ff34), ("XF86LightBulb", 0x1008ff35),
  ("XF86Shop", 0x1008ff36), ("XF86History", 0x1008ff37), ("XF86OpenURL", 0x1008ff38),
  ("XF86AddFavorite", 0x1008ff39), ("XF86HotLinks", 0x1008ff3a),
  ("XF86BrightnessAdjust", 0x1008ff3b), ("XF86Finance", 0x1008ff3c), ("XF86Community", 0x1008ff3d),
  ("XF86AudioRewind", 0x1008ff3e), ("XF86BackForward", 0x1008ff3f), ("XF86Launch0", 0x1008ff40),
  ("XF86Launch1", 0x1008ff41), ("XF86Launch2", 0x1008ff42), ("XF86Launch3", 0x1008ff43),
  ("XF86Launch4", 0x1008ff44), ("XF86Launch5", 0x1008ff45), ("XF86Launch6", 0x1008ff46),
  ("XF86Launch7", 0x1008ff47), ("XF86Launch8", 0x1008ff48), ("XF86Launch9", 0x1008ff49),
  ("XF86LaunchA", 0x1008ff4a), ("XF86LaunchB", 0x1008ff4b), ("XF86LaunchC", 0x1008ff4c),
  ("XF86LaunchD", 0x1008ff4d), ("XF86LaunchE", 0x1008ff4e), ("XF86LaunchF", 0x1008ff4f),
  ("XF86ApplicationLeft", 0x1008ff50), ("XF86ApplicationRight", 0x1008ff51),
  ("XF86Book", 0x1008ff52), ("XF86CD", 0x1008ff53), ("XF86Calculater", 0x1008ff54),
  ("XF86Clear", 0x1008ff55), ("XF86Close", 0x1008ff56), ("XF86Copy", 0x1008ff57),
  ("XF86Cut", 0x1008ff58), ("XF86Display", 0x1008ff59), ("XF86DOS", 0x1008ff5a),
  ("XF86Documents", 0x1008ff5b), ("XF86Excel", 0x1008ff5c), ("XF86Explorer", 0x1008ff5d),
  ("XF86Game", 0x1008ff5e), ("XF86Go", 0x1008ff5f), ("XF86iTouch", 0x1008ff60),
  ("XF86LogOff", 0x1008ff61), ("XF86Market", 0x1008ff62), ("XF86Meeting", 0x1008ff63),
  ("XF86MenuKB", 0x1008ff65), ("XF86MenuPB", 0x1008ff66), ("XF86MySites", 0x1008ff67),
  ("XF86New", 0x1008ff68), ("XF86News", 0x1008ff69), ("XF86OfficeHome", 0x1008ff6a),
  ("XF86Open", 0x1008ff6b), ("XF86Option", 0x1008ff6c), ("XF86Paste", 0x1008ff6d),
  ("XF86Phone", 0x1008ff6e), ("XF86Q", 0x1008ff70), ("XF86Reply", 0x1008ff72),
  ("XF86Reload", 0x1008ff73), ("XF86RotateWindows", 0x1008ff74), ("XF86RotationPB", 0x1008ff75),
  ("XF86RotationKB", 0x1008ff76), ("XF86Save", 0x1008ff77), ("XF86ScrollUp", 0x1008ff78),
  ("XF86ScrollDown", 0x1008ff79), ("XF86ScrollClick", 0x1008ff7a), ("XF86Send", 0x1008ff7b),
  ("XF86Spell", 0x1008ff7c), ("XF86SplitScreen", 0x1008ff7d), ("XF86Support", 0x1008ff7e),
  ("XF86TaskPane", 0x1008ff7f), ("XF86Terminal", 0x1008ff80), ("XF86Tools", 0x1008ff81),
  ("XF86Travel", 0x1008ff82), ("XF86UserPB", 0x1008ff84), ("XF86User1KB", 0x1008ff85),
  ("XF86User2KB", 0x1008ff86), ("XF86Video", 0x1008ff87), ("XF86WheelButton", 0x1008ff88),
  ("XF86Word", 0x1008ff89), ("XF86Xfer", 0x1008ff8a), ("XF86ZoomIn", 0x1008ff8b),
  ("XF86ZoomOut", 0x1008ff8c), ("XF86Away", 0x1008ff8d), ("XF86Messenger", 0x1008ff8e),
  ("XF86WebCam", 0x1008ff8f), ("XF86MailForward", 0x1008ff90), ("XF86Pictures", 0x1008ff91),
  ("XF86Music", 0x1008ff92), ("XF86Battery", 0x1008ff93), ("XF86Bluetooth", 0x1008ff94),
  ("XF86WLAN", 0x1008ff95), ("XF86UWB", 0x1008ff96), ("XF86AudioForward", 0x1008ff97),
  ("XF86AudioRepeat", 0x1008ff98), ("XF86AudioRandomPlay", 0x1008ff99),
  ("XF86Subtitle", 0x1008ff9a), ("XF86AudioCycleTrack", 0x1008ff9b),
  ("XF86CycleAngle", 0x1008ff9c), ("XF86FrameBack", 0x1008ff9d), ("XF86FrameForward", 0x1008ff9e),
  ("XF86Time", 0x1008ff9f), ("XF86Select", 0x1008ffa0), ("XF86View", 0x1008ffa1),
  ("XF86TopMenu", 0x1008ffa2), ("XF86Red", 0x1008ffa3), ("XF86Green", 0x1008ffa4),
  ("XF86Yellow", 0x1008ffa5), ("XF86Blue", 0x1008ffa6), ("XF86Suspend", 0x1008ffa7),
  ("XF86Hibernate", 0x1008ffa8), ("XF86TouchpadToggle", 0x1008ffa9),
  ("XF86TouchpadOn", 0x1008ffb0), ("XF86TouchpadOff", 0x1008ffb1),
  ("XF86AudioMicMute", 0x1008ffb2), ("XF86Keyboard", 0x1008ffb3), ("XF86WWAN", 0x1008ffb4),
  ("XF86RFKill", 0x1008ffb5), ("XF86AudioPreset", 0x1008ffb6),
  ("XF86RotationLockToggle", 0x1008ffb7), ("XF86FullScreen", 0x1008ffb8),
  ("XF86Switch_VT_1", 0x1008fe01), ("XF86Switch_VT_2", 0x1008fe02),
  ("XF86Switch_VT_3", 0x1008fe03), ("XF86Switch_VT_4", 0x1008fe04),
  ("XF86Switch_VT_5", 0x1008fe05), ("XF86Switch_VT_6", 0x1008fe06),
  ("XF86Switch_VT_7", 0x1008fe07), ("XF86Switch_VT_8", 0x1008fe08),
  ("XF86Switch_VT_9", 0x1008fe09), ("XF86Switch_VT_10", 0x1008fe0a),
  ("XF86Switch_VT_11", 0x1008fe0b), ("XF86Switch_VT_12", 0x1008fe0c), ("XF86Ungrab", 0x1008fe20),
  ("XF86ClearGrab", 0x1008fe21), ("XF86Next_VMode", 0x1008fe22), ("XF86Prev_VMode", 0x1008fe23),
  ("XF86LogWindowTree", 0x1008fe24), ("XF86LogGrabInfo", 0x1008fe25)]

/-- Every named key. -/
def named : List (String × UInt32) :=
  terminalKeys ++ cursorKeys ++ functionKeys ++ inputMethodKeys ++ keypadKeys ++
    modifierKeys ++ punctuationKeys ++ latinKeys ++ vendorKeys

end WmConfig.Keysym
