import AgentPanel.Proofs.Conversation.Ending
import AgentPanel.Proofs.Panel.DepthLimit
import AgentPanel.Proofs.Reply.Verdict
import AgentPanel.Proofs.Results

/-!
# The turn that an outcome becomes

However the model ends a request, with a reply or with an error, the outcome alone decides which
turn answers the submission (`finish_answers`): an error of the model becomes a turn for an agent
that could not be reached, a reply that cannot be used becomes one that keeps the whole reply, and
any other reply becomes its payload. Only an outcome without a text becomes no turn at all: its
fault leaves the submission.

`Assistant.ends` lists the turns. What remains is to tell them apart: `Reply.parse` gives only
errors that keep the reply, and `ErrorTurn.ofError` tells its two kinds of errors apart by the
family and leaves no message empty.
-/

namespace AgentPanel

open Json (Value)

/-! ## Errors on their way -/

/-- A request is not refused as blank for a text that could be submitted. -/
theorem Request.ask_of_not_isBlank {userText : Text} (h : userText.isBlank = false) (room : Nat)
    (instructions : Text) (model : List Message → ModelOutcome) :
    ask room instructions userText model =
      receive room (model (Prompt.messages instructions userText)) := by
  rw [ask, h]
  rfl

theorem PanelError.rawText?_of_isTransport {e : PanelError} (h : e.isTransport) :
    e.rawText? = none := by
  cases e with
  | transport m => rfl
  | rateLimited m => rfl
  | _ => cases h

theorem Reply.isTransport_of_parse {limit : Nat} {reply : Text} {e : PanelError}
    (h : (parse limit reply).value = .error e) :
    e.isTransport = false ∧ e.rawText? = some reply := by
  obtain ⟨message, rfl | rfl⟩ := error_of_parse reply e h
  · exact ⟨rfl, rfl⟩
  · exact ⟨rfl, rfl⟩

/-! ## Error turns -/

namespace Turn

/-- The turn says that the agent could not be reached, so there is no reply to keep. -/
def ReportsTransport (turn : Turn) : Prop :=
  ∃ e, turn = .error e ∧ e.failure = .transport ∧ e.rawText = none

/-- The turn says, with the given code, that the reply cannot be used, and keeps all of it. -/
def ReportsParse (code : String) (reply : Text) (turn : Turn) : Prop :=
  ∃ e, turn = .error e ∧ e.failure = .parse ∧ e.code = code ∧ e.rawText = some reply

theorem reportsTransport_ofError (version : Text) {e : PanelError} (h : e.isTransport) :
    (error (.ofError version e)).ReportsTransport := by
  refine ⟨_, rfl, ?_, PanelError.rawText?_of_isTransport h⟩
  simp [ErrorTurn.ofError, h]

theorem reportsParse_ofError (version : Text) {limit : Nat} {reply : Text} {e : PanelError}
    (h : (Reply.parse limit reply).value = .error e) :
    (error (.ofError version e)).ReportsParse e.code reply := by
  obtain ⟨htransport, hraw⟩ := Reply.isTransport_of_parse h
  refine ⟨_, rfl, ?_, rfl, hraw⟩
  simp [ErrorTurn.ofError, htransport]

theorem ReportsTransport.not_reportsParse {turn : Turn} (h : turn.ReportsTransport)
    (code : String) (reply : Text) : ¬turn.ReportsParse code reply := by
  rintro ⟨e, hturn, hparse, -, -⟩
  obtain ⟨e', rfl, htransport, -⟩ := h
  cases hturn
  cases htransport.symm.trans hparse

end Turn

/-! ## A text on its own -/

/-- A component without children is rendered as its element, whatever the limit. -/
theorem Component.value_render_of_leaf {engine : Engine} {c : Component} {e : Element}
    (hbuild : (buildElement engine 1 c).value = .ok e) (hchildren : c.children = [])
    (limit : RenderLimit) :
    (render engine limit c).value = ⟨c.id, c.type, e.kind, e.attrs, []⟩ := by
  obtain ⟨id, type, props, children⟩ := c
  cases hchildren
  have hfails : fails engine 1 ⟨id, type, props, []⟩ = false := by
    have hok := isOk_buildElement engine 1 ⟨id, type, props, []⟩
    rw [hbuild] at hok
    exact (Bool.not_eq_true' _).mp hok.symm
  have hwithin : effectiveDepth engine 1 ⟨id, type, props, []⟩ ≤ limit.value := by
    rw [effectiveDepth_of_not_fails engine hfails]
    exact limit.pos
  rw [value_render_of_le hwithin, renderWhole, hbuild, renderWholeAll]

/-- A payload of one text is rendered as one text node wherever texts are builtin. -/
theorem Payload.value_render_ofText {engine : Engine}
    (htext : engine.registry.resolve "text" = some (Builtin.capability "text" Builtin.text))
    (limit : RenderLimit) (version id content : Text) :
    (render engine limit (ofText version id content)).value =
      [⟨id, "text", "text", [("content", .text content), ("style", .text "body")], []⟩] := by
  have hcopied : engine.copying.fault? 1 (textComponent id content (some plainStyle)).props =
      none := engine.copying.flat _ rfl
  have happly : (Builtin.capability "text" Builtin.text).apply engine.copying 1
      (textComponent id content (some plainStyle)).props =
        .element ⟨"text", [("content", .text content), ("style", .text "body")]⟩ :=
    Capability.apply_eq_build _ hcopied
  have hbuild : (buildElement engine 1 (textComponent id content (some plainStyle))).value =
      .ok ⟨"text", [("content", .text content), ("style", .text "body")]⟩ :=
    Component.value_buildElement_of_element htext happly
  rw [Payload.value_render]
  exact congrArg (· :: []) (Component.value_render_of_leaf hbuild rfl limit)

/-! ## Outcomes -/

/-- The turn is the one that the outcome of a request calls for: which kind of turn it is says which
kind of outcome there was. -/
structure Turn.Answers (limits : NestingLimits) (outcome : ModelOutcome) (turn : Turn) : Prop where
  transport_iff : turn.ReportsTransport ↔ ∃ e, outcome = .raised e
  parse_iff (code : String) (reply : Text) : turn.ReportsParse code reply ↔
    ∃ v e, outcome = .reply v ∧ Request.replyText limits.writing v = .ok reply ∧
      (Reply.parse limits.reading reply).value = .error e ∧ e.code = code
  payload_iff (p : Payload) (repaired : Bool) : turn = .payload p repaired ↔
    ∃ v reply parsed, outcome = .reply v ∧ Request.replyText limits.writing v = .ok reply ∧
      (Reply.parse limits.reading reply).value = .ok parsed ∧
        parsed.payload = p ∧ parsed.repaired = repaired

/-- The error turn shows its message: rendered, it is one text, wherever texts are builtin. -/
structure ErrorTurn.ShowsMessage (e : ErrorTurn) : Prop where
  message_ne_nil : e.message ≠ []
  render (engine : Engine) (limit : RenderLimit) (version : Text)
    (htext : engine.registry.resolve "text" = some (Builtin.capability "text" Builtin.text)) :
    ((Turn.error e).render engine limit version).value = [⟨"err", "text", "text",
      [("content", .text ("Error: " ++ e.message)), ("style", .text "body")], []⟩]

theorem ErrorTurn.showsMessage_ofError (version : Text) (e : PanelError) :
    (ofError version e).ShowsMessage where
  message_ne_nil := by
    simp only [ofError]
    split
    · decide
    · next h => simpa using h
  render engine limit version' htext :=
    Payload.value_render_ofText htext limit version "err" _

/-! ## The turn that answers -/

namespace Turn

variable (version : Text) {limits : NestingLimits} {v : Value} {reply : Text}

theorem answers_raised (raised : Raised) {e : PanelError} (h : e.isTransport) :
    (error (.ofError version e)).Answers limits (.raised raised) where
  transport_iff := by
    have htransport := reportsTransport_ofError version h
    exact ⟨fun _ => ⟨raised, rfl⟩, fun _ => htransport⟩
  parse_iff code reply := by
    have htransport := reportsTransport_ofError version h
    constructor
    · intro hparse
      exact absurd hparse (htransport.not_reportsParse code reply)
    · rintro ⟨v, e, houtcome, -⟩
      cases houtcome
  payload_iff p repaired := by
    constructor
    · nofun
    · rintro ⟨v, reply, parsed, houtcome, -⟩
      cases houtcome

theorem answers_rejected {e : PanelError} (htext : Request.replyText limits.writing v = .ok reply)
    (h : (Reply.parse limits.reading reply).value = .error e) :
    (error (.ofError version e)).Answers limits (.reply v) where
  transport_iff := by
    have hreports := reportsParse_ofError version h
    constructor
    · intro htransport
      exact absurd hreports (htransport.not_reportsParse _ _)
    · rintro ⟨raised, houtcome⟩
      cases houtcome
  parse_iff code reply' := by
    constructor
    · rintro ⟨shown, hturn, -, rfl, hraw⟩
      cases hturn
      obtain ⟨-, hkept⟩ := Reply.isTransport_of_parse h
      obtain rfl : reply = reply' := Option.some.inj (hkept.symm.trans hraw)
      exact ⟨v, e, rfl, htext, h, rfl⟩
    · rintro ⟨v', e', houtcome, htext', he', rfl⟩
      cases houtcome
      cases htext.symm.trans htext'
      cases h.symm.trans he'
      exact reportsParse_ofError version h
  payload_iff p repaired := by
    constructor
    · nofun
    · rintro ⟨v', reply', parsed, houtcome, htext', hparsed, -⟩
      cases houtcome
      cases htext.symm.trans htext'
      cases h.symm.trans hparsed

theorem answers_parsed {parsed : Reply.Parsed}
    (htext : Request.replyText limits.writing v = .ok reply)
    (h : (Reply.parse limits.reading reply).value = .ok parsed) :
    (payload parsed.payload parsed.repaired).Answers limits (.reply v) where
  transport_iff := by
    constructor
    · rintro ⟨e, hturn, -⟩
      cases hturn
    · rintro ⟨raised, houtcome⟩
      cases houtcome
  parse_iff code reply' := by
    constructor
    · rintro ⟨e, hturn, -⟩
      cases hturn
    · rintro ⟨v', e, houtcome, htext', he, -⟩
      cases houtcome
      cases htext.symm.trans htext'
      cases h.symm.trans he
  payload_iff p repaired := by
    constructor
    · intro hturn
      cases hturn
      exact ⟨v, reply, parsed, rfl, htext, h, rfl, rfl⟩
    · rintro ⟨v', reply', parsed', houtcome, htext', hparsed, rfl, rfl⟩
      cases houtcome
      cases htext.symm.trans htext'
      cases h.symm.trans hparsed
      rfl

end Turn

namespace Assistant

variable {limits : NestingLimits} {version : Text} {outcome : ModelOutcome}

/-- A request that ends with a turn ends with the one that its outcome calls for. -/
theorem Ends.answers {turn : Turn} (h : Ends limits version outcome (.turn turn)) :
    turn.Answers limits outcome ∧ ∀ e, turn = .error e → e.ShowsMessage := by
  cases h with
  | unreached texts isTransport =>
    refine ⟨Turn.answers_raised version _ isTransport, ?_⟩
    rintro e ⟨⟩
    exact ErrorTurn.showsMessage_ofError version _
  | unusable text rejected =>
    refine ⟨Turn.answers_rejected version text rejected, ?_⟩
    rintro e ⟨⟩
    exact ErrorTurn.showsMessage_ofError version _
  | usable text parses => exact ⟨Turn.answers_parsed text parses, nofun⟩

theorem Ends.turn_of_textFault?_eq_none {answer : Answer} (h : Ends limits version outcome answer)
    (houtcome : ∀ name text, outcome ≠ .aborted name text)
    (htext : outcome.textFault? limits.writing = none) : ∃ turn, answer = .turn turn := by
  cases h with
  | givenUp name text => exact absurd rfl (houtcome name text)
  | textless isFault => cases htext.symm.trans isFault
  | unreached => exact ⟨_, rfl⟩
  | unusable => exact ⟨_, rfl⟩
  | usable => exact ⟨_, rfl⟩

theorem Ends.eq_of_textFault? {answer : Answer} (h : Ends limits version outcome answer)
    {fault : TextFault} (hfault : outcome.textFault? limits.writing = some fault) :
    answer = .escaped fault.raised := by
  cases h with
  | givenUp => cases hfault
  | textless isFault =>
    cases isFault.symm.trans hfault
    rfl
  | unreached texts => cases texts.symm.trans hfault
  | unusable text => cases (ModelOutcome.textFault?_of_replyText text).symm.trans hfault
  | usable text => cases (ModelOutcome.textFault?_of_replyText text).symm.trans hfault

/-- The fault in making the text of an outcome leaves the submission and adds nothing to the log. -/
theorem value_finish_of_textFault? (a : Assistant) {fault : TextFault}
    (h : outcome.textFault? limits.writing = some fault) :
    (a.finish limits version outcome).value = (⟨a.log, none⟩, .escaped fault.raised) := by
  rw [finish, Logged.value_bind, (ends limits version outcome).eq_of_textFault? h]
  show (Assistant.mk (_ ++ []) none, Answer.escaped fault.raised) = _
  rw [List.append_nil]

/-- A text that is not blank is accepted at rest, and asked as it is. However the model ends the
request, unless it is given up, one turn of the agent follows that of the user: the one that the
outcome calls for. If it is an error, it shows a message. Only an outcome without a text is not
answered: then the fault in making the text leaves the submission, and the log ends with the turn of
the user. -/
theorem finish_answers (limits : NestingLimits) (version : Text) (log : List Turn)
    (outcome : ModelOutcome) {text : Text} (htext : text.isBlank = false)
    (houtcome : ∀ name text, outcome ≠ .aborted name text) :
    ∃ waiting,
      submit ⟨log, none⟩ text = .accepted waiting ∧
        (∀ room instructions model, Request.ask room instructions text model =
          Request.receive room (model (waiting.messages instructions))) ∧
        (outcome.textFault? limits.writing = none → ∃ turn,
          (waiting.finish limits version outcome).value =
              (⟨log ++ [.userText text, turn], none⟩, .turn turn) ∧
            turn.Answers limits outcome ∧ ∀ e, turn = .error e → e.ShowsMessage) ∧
        ∀ fault, outcome.textFault? limits.writing = some fault →
          (waiting.finish limits version outcome).value =
            (⟨log ++ [.userText text], none⟩, .escaped fault.raised) := by
  have hends := ends limits version outcome
  refine ⟨⟨log ++ [.userText text], some text⟩, ?_, ?_, ?_, ?_⟩
  · rw [submit, htext]
    rfl
  · intro room
    exact Request.ask_of_not_isBlank htext room
  -- with a text, the outcome calls for a turn
  · intro hwritten
    obtain ⟨turn, hturn⟩ := hends.turn_of_textFault?_eq_none houtcome hwritten
    refine ⟨turn, ?_, Ends.answers (hturn ▸ hends)⟩
    have hlog : log ++ [.userText text] ++ [turn] = log ++ [.userText text, turn] :=
      List.append_assoc ..
    rw [finish, Logged.value_bind, hturn, ← hlog]
    rfl
  -- without one, its fault escapes
  · intro fault hfault
    exact value_finish_of_textFault? _ hfault

/-- A reply that is a number is read as its digits, and kept; an unusable-reply error that the model
itself raises is still one of transport; and an error that has no text leaves the submission. -/
theorem finish_answers_number :
    (∃ waiting turn,
      submit ⟨[], none⟩ "Hi" = .accepted waiting ∧
        (waiting.finish .standard "1.0" (.reply (.int 7))).value =
          (⟨[.userText "Hi", turn], none⟩, .turn turn) ∧
        turn.ReportsParse "SCHEMA_ERROR" "7") ∧
      (∃ waiting turn,
        submit ⟨[], none⟩ "Hi" = .accepted waiting ∧
          (waiting.finish .standard "1.0" (.raised (.own (.malformed [] "\x7b")))).value =
            (⟨[.userText "Hi", turn], none⟩, .turn turn) ∧
          turn.ReportsTransport) ∧
      ∃ waiting,
        submit ⟨[], none⟩ "Hi" = .accepted waiting ∧
          (waiting.finish .standard "1.0" (.raised (.textless "KeyError" .tooManyDigits))).value =
            (⟨[.userText "Hi"], none⟩, .escaped TextFault.tooManyDigits.raised) := by
  have htext : Text.isBlank "Hi" = false := by decide
  refine ⟨?_, ?_, ?_⟩
  · obtain ⟨waiting, hsubmit, -, hanswered, -⟩ :=
      finish_answers .standard "1.0" [] (.reply (.int 7)) htext nofun
    obtain ⟨turn, hfinish, hanswers, -⟩ := hanswered (by decide +kernel)
    refine ⟨waiting, turn, hsubmit, hfinish, ?_⟩
    have hwritten : Request.replyText NestingLimits.standard.writing (.int 7) = .ok "7" :=
      eq_ok_of_toOption (by decide +kernel)
    have hdecode : Json.decodeWithin? NestingLimits.standard.reading (Reply.candidate "7") =
        some (.int 7) := by decide +kernel
    have hparse : (Reply.parse NestingLimits.standard.reading "7").value = .error
        (.schema "Agent response is a JSON int, expected an object" "7") := by
      rw [Reply.parse_of_candidate hdecode]
      rfl
    exact (hanswers.parse_iff _ _).mpr ⟨.int 7, _, rfl, hwritten, hparse, rfl⟩
  · obtain ⟨waiting, hsubmit, -, hanswered, -⟩ :=
      finish_answers .standard "1.0" [] (.raised (.own (.malformed [] "\x7b"))) htext nofun
    obtain ⟨turn, hfinish, hanswers, -⟩ := hanswered rfl
    exact ⟨waiting, turn, hsubmit, hfinish, hanswers.transport_iff.mpr ⟨_, rfl⟩⟩
  · obtain ⟨waiting, hsubmit, -, -, hescaped⟩ := finish_answers .standard "1.0" []
      (.raised (.textless "KeyError" .tooManyDigits)) htext nofun
    exact ⟨waiting, hsubmit, hescaped _ rfl⟩

/-- An integer of one digit more than a text may have. -/
def longNumber : Value := .int (.ofNat (Nat.pow 10 Text.maxDigits))

/-- A reply that is such an integer, or nests too deep, leaves the submission with an error, and no
turn answers the user. -/
theorem finish_escapes :
    ∃ waiting,
      submit ⟨[], none⟩ "hi" = .accepted waiting ∧
        (waiting.finish .standard "1.0" (.reply longNumber)).value =
          (⟨[.userText "hi"], none⟩, .escaped TextFault.tooManyDigits.raised) ∧
        (waiting.finish .standard "1.0" (.reply (.nested Json.Value.standardRoom))).value =
          (⟨[.userText "hi"], none⟩, .escaped TextFault.tooDeep.raised) := by
  refine ⟨⟨[.userText "hi"], some "hi"⟩, by decide, ?_, ?_⟩
  · exact value_finish_of_textFault? _ (by decide +kernel)
  · exact value_finish_of_textFault? _ (ModelOutcome.textFault?_nested (Nat.le_refl _))

end Assistant

end AgentPanel
