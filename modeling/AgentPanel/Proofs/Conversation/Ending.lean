import AgentPanel.Conversation.Assistant

/-!
# How a request ends for its submission

A request that is not given up ends with a turn of the agent, unless a text that the conversation
needs cannot be made: that of the reply, or that of the error that the model raised. When this is so
is said by `ModelOutcome.textFault?`, and `Assistant.Ends` lists all ways in which a request can end
(`Assistant.ends`).

An error passes `Request.failure` on its way to a turn. Whatever the model raised, also an error
that belongs to another family of the panel, comes out of it as a transport error
(`Request.failure_cases`).
-/

namespace AgentPanel

open Json (Value)

/-! ## Outcomes without a text -/

namespace Json.Value

/-- Arrays inside each other, so many in the outermost one. -/
def nested (n : Nat) : Value := Nat.repeat (fun v => .array [v]) n (.array [])

/-- Arrays inside each other are too deep as soon as there is no room for the innermost one. -/
theorem textFault?_nested {room n : Nat} (h : room ≤ n) :
    (nested n).textFault? room = some .tooDeep := by
  induction room generalizing n with
  | zero => cases n <;> rfl
  | succ room ih =>
    cases n with
    | zero => cases h
    | succ n =>
      have hinner := ih (Nat.le_of_succ_le_succ h)
      show ((nested n).textFault? room).or none = _
      rw [hinner]
      rfl

end Json.Value

namespace ModelOutcome

variable {room : Nat}

/-- What is in the way of the text that a conversation needs of an outcome, where so many levels of
a value can be written: the text of a reply, or that of an error. A transport error is not asked for
its text, since it stays as it is. -/
def textFault? (room : Nat) : ModelOutcome → Option TextFault
  | reply v =>
    match Request.replyText room v with
    | .ok _ => none
    | .error fault => some fault
  | raised e =>
    if e.isTransport then none
    else match e.text with
      | .ok _ => none
      | .error fault => some fault
  | aborted _ _ => none

theorem textFault?_of_replyText {v : Value} {text : Text}
    (h : Request.replyText room v = .ok text) : (reply v).textFault? room = none := by
  rw [textFault?, h]

theorem textFault?_reply {v : Value} (hnull : v ≠ .null) (htext : ∀ t, v ≠ .text t) :
    (reply v).textFault? room = v.textFault? room := by
  have hshown : Request.replyText room v = v.shown? room := by
    rw [Request.replyText]
    exact hnull
  rw [textFault?, hshown, Value.shown?]
  · cases v.textFault? room <;> rfl
  · exact htext

theorem textFault?_nested {n : Nat} (h : room ≤ n) :
    (reply (.nested n)).textFault? room = some .tooDeep := by
  rw [textFault?_reply, Value.textFault?_nested h]
  · cases n <;> nofun
  · cases n <;> nofun

/-- Null and texts are read as they are. Any other reply has a text just if there is room for all
its levels and no integer in it has too many digits. -/
theorem textFault?_reply_eq_none_iff {v : Value} :
    (reply v).textFault? room = none ↔
      v = .null ∨ (∃ t, v = .text t) ∨ v.height ≤ room ∧ v.holdsLongInt = false := by
  by_cases hnull : v = .null
  · subst hnull
    exact iff_of_true rfl (.inl rfl)
  by_cases htext : ∃ t, v = .text t
  · obtain ⟨t, rfl⟩ := htext
    exact iff_of_true rfl (.inr (.inl ⟨t, rfl⟩))
  rw [textFault?_reply hnull (not_exists.mp htext), Value.textFault?_eq_none_iff]
  constructor
  · intro h
    exact .inr (.inr h)
  · rintro (h | h | h)
    · exact absurd h hnull
    · exact absurd h htext
    · exact h

end ModelOutcome

/-! ## Errors of the model -/

namespace Request

theorem isTransport_transportError (name text : Text) :
    (transportError name text).isTransport := by
  rw [transportError]
  split <;> rfl

/-- Whatever a model raises, the request fails with a transport error, unless the error has no
text. -/
theorem failure_cases (room : Nat) (e : Raised) :
    (∃ own, (ModelOutcome.raised e).textFault? room = none ∧
        (failure e).value = .own own ∧ own.isTransport) ∨
      ∃ fault, (ModelOutcome.raised e).textFault? room = some fault ∧
        (failure e).value = fault.raised := by
  cases htransport : e.isTransport with
  | true =>
    -- a transport error passes through as it is
    cases e with
    | own own =>
      refine .inl ⟨own, ?_, ?_, htransport⟩
      · rw [ModelOutcome.textFault?, if_pos htransport]
      · rw [failure, if_pos htransport, Logged.value_pure]
    | other name text => cases htransport
    | textless name fault => cases htransport
  | false =>
    have hother : ¬e.isTransport = true := Bool.eq_false_iff.mp htransport
    cases htext : e.text with
    | error fault =>
      refine .inr ⟨fault, ?_, ?_⟩
      · rw [ModelOutcome.textFault?, if_neg hother, htext]
      · rw [failure, if_neg hother, htext, Logged.value_pure]
    | ok text =>
      refine .inl ⟨transportError e.name text, ?_, ?_, isTransport_transportError _ _⟩
      · rw [ModelOutcome.textFault?, if_neg hother, htext]
      · rw [failure, if_neg hother, htext]
        rfl

end Request

/-! ## Endings -/

namespace Assistant

/-- All ways for a request to end for its submission. -/
inductive Ends (limits : NestingLimits) (version : Text) : ModelOutcome → Answer → Prop
  | givenUp (name text : Text) :
      Ends limits version (.aborted name text) (.escaped (.other name text))
  | textless {outcome : ModelOutcome} {fault : TextFault}
      (isFault : outcome.textFault? limits.writing = some fault) :
      Ends limits version outcome (.escaped fault.raised)
  | unreached {raised : Raised} {e : PanelError}
      (texts : (ModelOutcome.raised raised).textFault? limits.writing = none)
      (isTransport : e.isTransport) :
      Ends limits version (.raised raised) (.turn (.error (.ofError version e)))
  | unusable {v : Value} {reply : Text} {e : PanelError}
      (text : Request.replyText limits.writing v = .ok reply)
      (rejected : (Reply.parse limits.reading reply).value = .error e) :
      Ends limits version (.reply v) (.turn (.error (.ofError version e)))
  | usable {v : Value} {reply : Text} {parsed : Reply.Parsed}
      (text : Request.replyText limits.writing v = .ok reply)
      (parses : (Reply.parse limits.reading reply).value = .ok parsed) :
      Ends limits version (.reply v) (.turn (.payload parsed.payload parsed.repaired))

variable (limits : NestingLimits) (version : Text)

theorem value_answer_raised (e : Raised) :
    (answer limits version (.raised e)).value =
      match (Request.failure e).value with
        | .own e => .turn (.error (.ofError version e))
        | e => .escaped e := by
  rw [answer, Request.receive, Logged.value_bind, Logged.value_bind, Logged.value_pure]
  cases (Request.failure e).value <;> rfl

theorem value_answer_of_text {v : Value} {reply : Text}
    (h : Request.replyText limits.writing v = .ok reply) :
    (answer limits version (.reply v)).value =
      match (Reply.parse limits.reading reply).value with
        | .error e => .turn (.error (.ofError version e))
        | .ok parsed => .turn (.payload parsed.payload parsed.repaired) := by
  rw [answer, Request.receive, h, Logged.value_bind, Logged.value_pure]
  show Logged.value (_ >>= _) = _
  rw [Logged.value_bind]
  cases (Reply.parse limits.reading reply).value <;> rfl

theorem value_answer_of_fault {v : Value} {fault : TextFault}
    (h : Request.replyText limits.writing v = .error fault) :
    (answer limits version (.reply v)).value = .escaped fault.raised := by
  rw [answer, Request.receive, h, Logged.value_bind, Logged.value_pure]
  rfl

theorem ends (outcome : ModelOutcome) :
    Ends limits version outcome (answer limits version outcome).value := by
  cases outcome with
  | aborted name text => exact .givenUp name text
  | raised e =>
    rw [value_answer_raised]
    -- of the errors that leave a request, only those of the panel become turns
    rcases Request.failure_cases limits.writing e with
      ⟨own, htexts, hvalue, htransport⟩ | ⟨fault, hfault, hvalue⟩
    · rw [hvalue]
      exact .unreached htexts htransport
    · rw [hvalue]
      exact .textless hfault
  | reply v =>
    cases htext : Request.replyText limits.writing v with
    | error fault =>
      rw [value_answer_of_fault limits version htext]
      refine .textless ?_
      rw [ModelOutcome.textFault?, htext]
    | ok reply =>
      rw [value_answer_of_text limits version htext]
      cases hparse : (Reply.parse limits.reading reply).value with
      | error e => exact .unusable htext hparse
      | ok parsed => exact .usable htext hparse

variable {limits version} {outcome : ModelOutcome} {answer : Answer}

/-- Only a request that is given up, or one whose outcome has no text, ends without a turn. -/
theorem Ends.escaped_iff (h : Ends limits version outcome answer) :
    (∃ e, answer = .escaped e) ↔
      (∃ name text, outcome = .aborted name text) ∨
        (outcome.textFault? limits.writing).isSome := by
  cases h with
  | givenUp name text => exact iff_of_true ⟨_, rfl⟩ (.inl ⟨name, text, rfl⟩)
  | textless isFault => exact iff_of_true ⟨_, rfl⟩ (.inr (Option.isSome_of_eq_some isFault))
  | unreached texts isTransport =>
    rw [texts]
    exact iff_of_false nofun nofun
  | unusable text rejected =>
    rw [ModelOutcome.textFault?_of_replyText text]
    exact iff_of_false nofun nofun
  | usable text parses =>
    rw [ModelOutcome.textFault?_of_replyText text]
    exact iff_of_false nofun nofun

theorem Ends.sender {turn : Turn} (h : Ends limits version outcome (.turn turn)) :
    turn.sender = .agent := by
  cases h <;> rfl

end Assistant

end AgentPanel
