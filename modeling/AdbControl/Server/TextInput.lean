import AdbControl.Server.AdbShell

namespace AdbControl.Server

open Framework
open AdbControl.Framework.CommandLine (Dialect commands isLiteralWord)
open AdbControl.Server.DeviceAction (ActionRequest InvalidAction actionArguments deviceArgs)

def inputText : List (List Char) := ["input".toList, "text".toList]

/-- `input text` on the device: `%s` is a space. -/
def typed (word : List Char) : List Char := replaceAll ['%', 's'] [' '] word

/-- A text as it is given to `input text`. -/
def encoded (text : List Char) : List Char := replaceAll [' '] ['%', 's'] text

/-- The shell runs the one command, and that types the text. -/
def Delivers (d : Dialect) (args : List String) (text : String) : Prop :=
  ∃ word, (shellLine args).bind (commands d) = some [inputText ++ [word]] ∧
    typed word = text.toList

section Decoding

variable {text : List Char}

theorem encoded_cons (c : Char) (text : List Char) :
    encoded (c :: text) = (if c = ' ' then ['%', 's'] else [c]) ++ encoded text := by
  rw [encoded, encoded, replaceAll_singleton, replaceAll_singleton, List.flatMap_cons]

theorem typed_found (text : List Char) : typed ('%' :: 's' :: text) = ' ' :: typed text :=
  replaceAll_found (by decide) text

/-- What is typed are the spaces, and what would have been typed without them being encoded. -/
theorem typed_encoded (text : List Char) : typed (encoded text) = typed text := by
  induction text using replaceAll_induction (show ['%', 's'] ≠ [] by decide) with
  | nil => rfl
  | found text ih =>
    rw [List.cons_append, List.singleton_append, encoded_cons, encoded_cons, if_neg (by decide),
      if_neg (by decide), typed_found, ← ih]
    exact typed_found _
  | cons c text hc ih =>
    have here : typed (c :: text) = c :: typed text := replaceAll_cons hc
    rw [encoded_cons, here, ← ih]
    split_ifs with hblank
    · rw [hblank]
      exact typed_found _
    · refine replaceAll_cons ?_
      -- the character behind a percent sign is still not an `s`
      intro hfound
      obtain ⟨hpercent, hbehind⟩ := List.cons_prefix_cons.mp hfound
      cases text with
      | nil => simp [encoded, replaceAll, replaceFrom] at hbehind
      | cons e text =>
        rw [encoded_cons] at hbehind
        split_ifs at hbehind with he
        · simp at hbehind
        · have letter : 's' = e := (List.cons_prefix_cons.mp hbehind).1
          exact hc (by simp [← hpercent, ← letter])

theorem length_encoded (text : List Char) :
    (encoded text).length = text.length + text.count ' ' := by
  induction text with
  | nil => rfl
  | cons c text ih =>
    rw [encoded_cons, List.length_append, ih, List.length_cons, List.count_cons]
    split_ifs <;> simp_all <;> omega

/-- What is typed is shorter by the spaces that it has more. -/
theorem length_typed (word : List Char) :
    word.length + word.count ' ' = (typed word).length + (typed word).count ' ' := by
  induction word using replaceAll_induction (show ['%', 's'] ≠ [] by decide) with
  | nil => rfl
  | found word ih =>
    have here : typed (['%', 's'] ++ word) = ' ' :: typed word := typed_found word
    rw [here]
    simp
    omega
  | cons c word hc ih =>
    have here : typed (c :: word) = c :: typed word := replaceAll_cons hc
    rw [here, List.length_cons, List.length_cons, List.count_cons, List.count_cons]
    omega

theorem blank_not_encoded (text : List Char) : ∀ c ∈ encoded text, c ≠ ' ' := by
  intro c hc
  rw [encoded, replaceAll_singleton] at hc
  obtain ⟨e, -, hmem⟩ := List.mem_flatMap.mp hc
  split_ifs at hmem with hblank
  · rintro rfl
    revert hmem
    decide
  · rw [List.mem_singleton.mp hmem]
    exact hblank

end Decoding

/-- A text is delivered as it is exactly when no character of it, with the spaces encoded, is special to
the shell where it stands, and it has no `%s` of its own. -/
theorem text_delivered_iff (d : Dialect) {deviceID : String} {action : ActionRequest}
    {args : List String} (htype : action.type = "text")
    (accepted : actionArguments deviceID action = .ok args) :
    Delivers d args action.text ↔
      isLiteralWord d (encoded action.text.toList) = true ∧ ¬['%', 's'] <:+: action.text.toList := by
  have sent : args = deviceArgs deviceID
      ("shell" :: ["input", "text"] ++ [String.ofList (encoded action.text.toList)]) := by
    simp only [actionArguments, htype] at accepted
    split_ifs at accepted
    exact (Except.ok.inj accepted).symm
  have plain : ∀ w ∈ inputText, Shell.isPlainWord w = true := by decide
  have line := shellLine_deviceArgs deviceID ["input", "text"]
    (String.ofList (encoded action.text.toList))
  rw [← sent, String.toList_ofList] at line
  have unchanged : typed action.text.toList = action.text.toList ↔
      ¬['%', 's'] <:+: action.text.toList := replaceAll_eq_self_iff (by decide)
  unfold Delivers
  rw [line, Option.bind_some, ← unchanged]
  constructor
  · rintro ⟨word, hruns, htyped⟩
    have other (c : Char) (hc : Shell.isPlain c = true) : c ≠ ' ' := by
      rintro rfl
      revert hc
      decide
    have blanks := CommandLine.chars_of_commands plain other (by decide)
      (blank_not_encoded action.text.toList) hruns
    have none : word.count ' ' = 0 := List.count_eq_zero.mpr fun hmem => blanks ' ' hmem rfl
    have measured := length_typed word
    rw [htyped, none, Nat.add_zero, ← length_encoded] at measured
    obtain ⟨literal, same⟩ := CommandLine.literal_of_commands plain measured.ge hruns
    rw [same, typed_encoded] at htyped
    exact ⟨literal, htyped⟩
  · rintro ⟨literal, htyped⟩
    have runs := CommandLine.commands_literal plain (by decide) literal
    exact ⟨encoded action.text.toList, runs, by rw [typed_encoded, htyped]⟩

def textAction (text : String) : ActionRequest := { type := "text", text := text }

theorem text_delivered_greeting :
    Delivers .posix ["-s", "pixel", "shell", "input", "text", "good%smorning,%sworld"]
        "good morning, world" ↔
      isLiteralWord .posix (encoded "good morning, world".toList) = true ∧
        ¬['%', 's'] <:+: "good morning, world".toList :=
  @text_delivered_iff .posix "pixel" (textAction "good morning, world") _ rfl (by decide)

/-- A semicolon in an accepted text has another command run, and a `%s` in it is typed as a space. -/
theorem text_altered :
    actionArguments "pixel" (textAction "tea;reboot") =
      .ok ["-s", "pixel", "shell", "input", "text", "tea;reboot"] ∧
    (shellLine ["-s", "pixel", "shell", "input", "text", "tea;reboot"]).bind (commands .posix) =
      some [inputText ++ ["tea".toList], ["reboot".toList]] ∧
    ¬Delivers .posix ["-s", "pixel", "shell", "input", "text", "tea;reboot"] "tea;reboot" ∧
    typed (encoded "100%safe".toList) = "100 afe".toList := by
  have line : (shellLine ["-s", "pixel", "shell", "input", "text", "tea;reboot"]).bind
      (commands .posix) = some [inputText ++ ["tea".toList], ["reboot".toList]] := by decide
  refine ⟨by decide, line, ?_, by decide⟩
  rintro ⟨word, hruns, -⟩
  rw [line] at hruns
  cases hruns

end AdbControl.Server
