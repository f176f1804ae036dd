import AgentPanel.Conversation.History
import AgentPanel.Proofs.Conversation.Ending

/-!
# One turn in flight, and a well-formed log

Submissions and the ends of requests may come in any order. Whatever the order, at most one request
is open, and behind its initial turns the log is a row of exchanges: one for each accepted
submission, each with the user's turn and the one turn of the agent that answers it. No turn answers
a request that was given up, and none one whose outcome has no text (`log_eq_exchanges`).

The exchanges are those of `Exchange.ofHistory`, which knows neither logs nor open requests. The
invariant `Records` ties them to the state of the assistant and to what everybody was told so far;
`Records.next` says that nothing that can happen breaks it.
-/

namespace AgentPanel

/-! ## Exchanges -/

namespace Exchange

/-- What the user said. -/
def text : Exchange → Text
  | unanswered text | answered text _ | broken text _ => text

/-- How the exchange ended, if it did: with a turn of the agent, or with an error that left it. -/
def ending? : Exchange → Option Assistant.Answer
  | unanswered _ => none
  | answered _ turn => some (.turn turn)
  | broken _ e => some (.escaped e)

variable (limits : NestingLimits) (version : Text) (outcome : ModelOutcome)

theorem close_of_not_isUnanswered {e : Exchange} (h : e.isUnanswered = false) :
    close limits version outcome e = e := by
  cases e with
  | unanswered text => cases h
  | answered text turn => rfl
  | broken text e => rfl

theorem map_close_of_forall {settled : List Exchange}
    (h : ∀ e ∈ settled, e.isUnanswered = false) :
    settled.map (close limits version outcome) = settled := by
  have hsame : ∀ e ∈ settled, close limits version outcome e = id e := by
    intro e he
    exact close_of_not_isUnanswered limits version outcome (h e he)
  rw [List.map_congr_left hsame, List.map_id]

theorem any_isUnanswered_eq_false {settled : List Exchange}
    (h : ∀ e ∈ settled, e.isUnanswered = false) : settled.any isUnanswered = false := by
  rw [List.any_eq_false]
  intro e he
  rw [h e he]
  exact Bool.false_ne_true

/-! The end of a request settles its exchange. -/

theorem text_close_unanswered (text : Text) :
    (close limits version outcome (unanswered text)).text = text := by
  rw [close]
  cases (Assistant.answer limits version outcome).value <;> rfl

theorem turns_close_unanswered (text : Text) :
    (close limits version outcome (unanswered text)).turns =
      .userText text :: (Assistant.answer limits version outcome).value.turn?.toList := by
  rw [close]
  cases (Assistant.answer limits version outcome).value <;> rfl

theorem ending?_close_unanswered (text : Text) :
    (close limits version outcome (unanswered text)).ending? =
      some (Assistant.answer limits version outcome).value := by
  rw [close]
  cases (Assistant.answer limits version outcome).value <;> rfl

theorem isUnanswered_close (e : Exchange) :
    (close limits version outcome e).isUnanswered = false := by
  cases e with
  | unanswered text =>
    rw [close]
    cases (Assistant.answer limits version outcome).value <;> rfl
  | answered text turn => rfl
  | broken text e => rfl

end Exchange

/-! ## What can happen -/

namespace Timeline

variable {limits : NestingLimits} {version : Text} {t : Timeline}

theorem next_submit_of_isBlank {text : Text} (h : text.isBlank) :
    t.next limits version (.submit text) = (t, .ignored) := by
  rw [next, Assistant.submit, if_pos h]

theorem next_submit_of_isPending {text : Text} (hblank : ¬text.isBlank)
    (h : t.assistant.isPending) :
    t.next limits version (.submit text) = (t, .refused Assistant.busy) := by
  rw [next, Assistant.submit, if_neg hblank, if_pos h]

theorem next_submit_of_idle {text : Text} (hblank : ¬text.isBlank)
    (h : ¬t.assistant.isPending) :
    t.next limits version (.submit text) =
      (⟨⟨t.assistant.log ++ [.userText text], some text⟩, t.waiting ++ [text]⟩, .accepted) := by
  rw [next, Assistant.submit, if_neg hblank, if_neg h]

theorem next_ends_of_lt {request : Nat} (outcome : ModelOutcome)
    (h : request < t.waiting.length) :
    t.next limits version (.ends request outcome) =
      (⟨⟨t.assistant.log ++ (Assistant.answer limits version outcome).value.turn?.toList, none⟩,
          t.waiting.eraseIdx request⟩,
        .ended (Assistant.answer limits version outcome).value) := by
  rw [next, if_pos h]
  rfl

theorem next_ends_of_not_lt {request : Nat} (outcome : ModelOutcome)
    (h : ¬request < t.waiting.length) :
    t.next limits version (.ends request outcome) = (t, .unknown) := by
  rw [next, if_neg h]

/-! ## Logs only grow -/

variable (limits version)

theorem log_isPrefix_next (t : Timeline) (h : Happening) :
    t.assistant.log <+: (t.next limits version h).1.assistant.log := by
  cases h with
  | submit text =>
    by_cases hblank : text.isBlank
    · simp only [next_submit_of_isBlank hblank, List.prefix_refl]
    by_cases hpending : t.assistant.isPending
    · simp only [next_submit_of_isPending hblank hpending, List.prefix_refl]
    · rw [next_submit_of_idle hblank hpending]
      exact List.prefix_append ..
  | ends request outcome =>
    by_cases hopen : request < t.waiting.length
    · rw [next_ends_of_lt outcome hopen]
      exact List.prefix_append ..
    · simp only [next_ends_of_not_lt outcome hopen, List.prefix_refl]

theorem log_isPrefix_after (t : Timeline) (history : List Happening) :
    t.assistant.log <+: (t.after limits version history).assistant.log := by
  induction history generalizing t with
  | nil => exact List.prefix_refl _
  | cons h history ih => exact (log_isPrefix_next limits version t h).trans (ih _)

theorem after_append (t : Timeline) (earlier later : List Happening) :
    t.after limits version (earlier ++ later) =
      (t.after limits version earlier).after limits version later :=
  List.foldl_append

/-! ## What is told -/

/-- Each thing that happens, with what somebody is told about it. -/
def told : Timeline → List Happening → List (Happening × Notice)
  | _, [] => []
  | t, h :: rest =>
    (h, (t.next limits version h).2) :: told (t.next limits version h).1 rest

/-- The text of a submission that was accepted. -/
def acceptedText? : Happening × Notice → Option Text
  | (.submit text, .accepted) => some text
  | _ => none

/-- How a request ended: with a turn of the agent, or with an error that left it. -/
def ending? : Happening × Notice → Option Assistant.Answer
  | (_, .ended answer) => some answer
  | _ => none

/-- The exchanges account for the log, for the open request, and for all that was told. -/
structure Records (initial : List Turn) (past : List (Happening × Notice))
    (exchanges : List Exchange) (t : Timeline) : Prop where
  log : t.assistant.log = initial ++ exchanges.flatMap Exchange.turns
  waiting : t.waiting = t.assistant.inFlight.toList
  settled : ∃ settled : List Exchange, (∀ e ∈ settled, e.isUnanswered = false) ∧
    exchanges = settled ++ t.waiting.map Exchange.unanswered
  texts : exchanges.map Exchange.text = past.filterMap acceptedText?
  endings : exchanges.filterMap Exchange.ending? = past.filterMap ending?

variable {initial : List Turn} {past : List (Happening × Notice)} {exchanges : List Exchange}

theorem Records.of_told_nothing (h : Records initial past exchanges t) {p : Happening × Notice}
    (htext : acceptedText? p = none) (hending : ending? p = none) :
    Records initial (past ++ [p]) exchanges t where
  log := h.log
  waiting := h.waiting
  settled := h.settled
  texts := by simp [h.texts, htext]
  endings := by simp [h.endings, hending]

theorem Records.any_isUnanswered (h : Records initial past exchanges t) :
    exchanges.any Exchange.isUnanswered = t.assistant.isPending := by
  obtain ⟨settled, hsettled, rfl⟩ := h.settled
  rw [List.any_append, Exchange.any_isUnanswered_eq_false hsettled, h.waiting, Assistant.isPending]
  cases t.assistant.inFlight with
  | none => rfl
  | some text => rfl

theorem Records.waiting_eq_nil (h : Records initial past exchanges t)
    (hidle : ¬t.assistant.isPending) : t.waiting = [] := by
  rw [Assistant.isPending] at hidle
  rw [h.waiting, Option.not_isSome_iff_eq_none.mp hidle]
  rfl

theorem Records.settled_of_waiting_eq_nil (h : Records initial past exchanges t)
    (hnone : t.waiting = []) : ∀ e ∈ exchanges, e.isUnanswered = false := by
  obtain ⟨settled, hsettled, rfl⟩ := h.settled
  rw [hnone, List.map_nil, List.append_nil]
  exact hsettled

theorem Records.submit (h : Records initial past exchanges t) (text : Text) :
    Records initial (past ++ [(.submit text, (t.next limits version (.submit text)).2)])
      (Exchange.next limits version exchanges (.submit text))
      (t.next limits version (.submit text)).1 := by
  rw [Exchange.next, h.any_isUnanswered]
  by_cases hblank : text.isBlank
  · rw [next_submit_of_isBlank hblank, hblank, Bool.true_or, if_pos rfl]
    exact h.of_told_nothing rfl rfl
  by_cases hpending : t.assistant.isPending
  · rw [next_submit_of_isPending hblank hpending, hpending, Bool.or_true, if_pos rfl]
    exact h.of_told_nothing rfl rfl
  · -- nothing is open, so all exchanges are settled and a new one begins behind them
    have hnone := h.waiting_eq_nil hpending
    rw [next_submit_of_idle hblank hpending, if_neg (by simp [hblank, hpending]), hnone]
    refine ⟨?_, rfl, ⟨exchanges, h.settled_of_waiting_eq_nil hnone, rfl⟩, ?_, ?_⟩
    · simp [h.log, Exchange.turns]
    · simp [h.texts, Exchange.text, acceptedText?]
    · rw [List.filterMap_append, List.filterMap_append, h.endings]
      rfl

/-- While a request is open, its exchange is the last one and has only the user's turn. -/
theorem Records.exists_settled (h : Records initial past exchanges t) {text : Text}
    (hone : t.waiting = [text]) :
    ∃ settled : List Exchange, (∀ e ∈ settled, e.isUnanswered = false) ∧
      exchanges = settled ++ [.unanswered text] ∧
      t.assistant.log = initial ++ settled.flatMap Exchange.turns ++ [.userText text] ∧
      past.filterMap acceptedText? = settled.map Exchange.text ++ [text] ∧
      past.filterMap ending? = settled.filterMap Exchange.ending? := by
  obtain ⟨settled, hsettled, rfl⟩ := h.settled
  rw [hone] at h ⊢
  refine ⟨settled, hsettled, rfl, ?_, ?_, ?_⟩
  · rw [h.log, List.flatMap_append, List.append_assoc]
    rfl
  · rw [← h.texts, List.map_append]
    rfl
  · rw [← h.endings, List.filterMap_append]
    exact List.append_nil _

/-- Only the first of the open requests can end, since there is no second one. -/
theorem Records.exists_of_lt (h : Records initial past exchanges t) {request : Nat}
    (hopen : request < t.waiting.length) : request = 0 ∧ ∃ text, t.waiting = [text] := by
  rw [h.waiting] at hopen ⊢
  cases hflight : t.assistant.inFlight with
  | none =>
    rw [hflight] at hopen
    cases hopen
  | some text =>
    rw [hflight] at hopen
    exact ⟨Nat.lt_one_iff.mp hopen, text, rfl⟩

theorem Records.next_ends_eq_self (h : Records initial past exchanges t) {request : Nat}
    (outcome : ModelOutcome) (hopen : ¬request < t.waiting.length) :
    Exchange.next limits version exchanges (.ends request outcome) = exchanges := by
  rw [Exchange.next]
  by_cases hzero : request = 0
  · have hnone : t.waiting = [] := by
      rw [hzero] at hopen
      exact List.length_eq_zero_iff.mp (Nat.eq_zero_of_not_pos hopen)
    have hsettled := h.settled_of_waiting_eq_nil hnone
    rw [if_pos hzero, Exchange.map_close_of_forall limits version outcome hsettled]
  · rw [if_neg hzero]

theorem next_ends_eq_append_close {settled : List Exchange}
    (h : ∀ e ∈ settled, e.isUnanswered = false) (text : Text) (outcome : ModelOutcome) :
    Exchange.next limits version (settled ++ [.unanswered text]) (.ends 0 outcome) =
      settled ++ [Exchange.close limits version outcome (.unanswered text)] := by
  rw [Exchange.next, if_pos rfl, List.map_append,
    Exchange.map_close_of_forall limits version outcome h]
  rfl

theorem Records.ends (h : Records initial past exchanges t) (request : Nat)
    (outcome : ModelOutcome) :
    Records initial
      (past ++ [(.ends request outcome, (t.next limits version (.ends request outcome)).2)])
      (Exchange.next limits version exchanges (.ends request outcome))
      (t.next limits version (.ends request outcome)).1 := by
  by_cases hopen : request < t.waiting.length
  · -- the end settles the last exchange; the ones before it stay as they are
    obtain ⟨rfl, text, hone⟩ := h.exists_of_lt hopen
    obtain ⟨settled, hsettled, rfl, hlog, htexts, hendings⟩ := h.exists_settled hone
    have hlast : t.waiting.eraseIdx 0 = [] := by rw [hone]; rfl
    rw [next_ends_of_lt outcome hopen, next_ends_eq_append_close _ _ hsettled, hlast]
    refine ⟨?_, rfl, ⟨_, ?_, (List.append_nil _).symm⟩, ?_, ?_⟩
    · show t.assistant.log ++ _ = _
      rw [hlog, List.flatMap_append, List.flatMap_singleton, Exchange.turns_close_unanswered,
        List.append_assoc, List.append_assoc]
      rfl
    · intro e he
      rcases List.mem_append.mp he with hold | hnew
      · exact hsettled e hold
      · rw [List.mem_singleton.mp hnew]
        exact Exchange.isUnanswered_close ..
    · rw [List.filterMap_append, htexts, List.map_append, List.map_singleton,
        Exchange.text_close_unanswered]
      exact (List.append_nil _).symm
    · rw [List.filterMap_append, List.filterMap_append, hendings,
        List.filterMap_cons_some (Exchange.ending?_close_unanswered limits version outcome text)]
      rfl
  · rw [next_ends_of_not_lt outcome hopen, h.next_ends_eq_self limits version outcome hopen]
    exact h.of_told_nothing rfl rfl

/-- Nothing that can happen breaks the account. -/
theorem Records.next (h : Records initial past exchanges t) (x : Happening) :
    Records initial (past ++ [(x, (t.next limits version x).2)])
      (Exchange.next limits version exchanges x) (t.next limits version x).1 := by
  cases x with
  | submit text => exact h.submit limits version text
  | ends request outcome => exact h.ends limits version request outcome

theorem Records.after (h : Records initial past exchanges t) (history : List Happening) :
    Records initial (past ++ told limits version t history)
      (history.foldl (Exchange.next limits version) exchanges)
      (t.after limits version history) := by
  induction history generalizing past exchanges t with
  | nil =>
    rw [told, List.append_nil]
    exact h
  | cons x history ih =>
    have hrest := ih (h.next limits version x)
    rw [List.append_assoc] at hrest
    exact hrest

/-! ## Conversations -/

/-- A conversation, from its start on. -/
def ofHistory (log : List Turn) (welcome : Bool) (history : List Happening) : Timeline :=
  (start (Assistant.start version log welcome)).after limits version history

variable (log : List Turn) (welcome : Bool)

/-- All that was told in a conversation, from its start on. -/
def toldIn (history : List Happening) : List (Happening × Notice) :=
  told limits version (start (Assistant.start version log welcome)) history

theorem records_ofHistory (history : List Happening) :
    Records (Assistant.start version log welcome).log (toldIn limits version log welcome history)
      (Exchange.ofHistory limits version history)
      (ofHistory limits version log welcome history) := by
  have hstart : Records (Assistant.start version log welcome).log [] []
      (start (Assistant.start version log welcome)) :=
    ⟨(List.append_nil _).symm, rfl, ⟨[], nofun, rfl⟩, rfl, rfl⟩
  exact hstart.after limits version history

theorem exists_next_of_mem_told {x : Happening} {notice : Notice} {history : List Happening}
    (h : (x, notice) ∈ told limits version t history) :
    ∃ t' : Timeline, notice = (t'.next limits version x).2 := by
  induction history generalizing t with
  | nil => cases h
  | cons y history ih =>
    rcases List.mem_cons.mp h with hfirst | hlater
    · cases hfirst
      exact ⟨t, rfl⟩
    · exact ih hlater

theorem eq_of_next_ends {request : Nat} {outcome : ModelOutcome} {answer : Assistant.Answer}
    (h : .ended answer = (t.next limits version (.ends request outcome)).2) :
    answer = (Assistant.answer limits version outcome).value := by
  by_cases hopen : request < t.waiting.length
  · rw [next_ends_of_lt outcome hopen] at h
    exact Notice.ended.inj h
  · rw [next_ends_of_not_lt outcome hopen] at h
    cases h

/-- In every state that a conversation can reach, at most one request is open, and the assistant is
pending as long as one is. Its log has only grown. Behind the initial turns it holds one exchange
for each accepted submission, in their order: the user's turn and what the request ended with, which
is one turn of the agent unless the request was given up or its outcome has no text. Only the last
exchange may be unanswered, and it is if a request is open. A blank submission is ignored and one
that comes while a request is open is refused, both without a trace; all others are accepted. -/
theorem log_eq_exchanges (history : List Happening) :
    let now := ofHistory limits version log welcome history
    let past := toldIn limits version log welcome history
    let exchanges := Exchange.ofHistory limits version history
    (now.waiting.length ≤ 1 ∧ (now.assistant.isPending ↔ now.waiting.length = 1)) ∧
      (∀ earlier, earlier <+: history →
        (ofHistory limits version log welcome earlier).assistant.log <+: now.assistant.log) ∧
      (now.assistant.log =
          (Assistant.start version log welcome).log ++ exchanges.flatMap Exchange.turns ∧
        exchanges.map Exchange.text = past.filterMap acceptedText? ∧
        exchanges.filterMap Exchange.ending? = past.filterMap ending? ∧
        ∃ settled : List Exchange, (∀ e ∈ settled, e.isUnanswered = false) ∧
          exchanges = settled ++ now.waiting.map Exchange.unanswered) ∧
      (∀ request outcome answer, (Happening.ends request outcome, Notice.ended answer) ∈ past →
        answer = (Assistant.answer limits version outcome).value ∧
          ((∃ e, answer = .escaped e) ↔
            (∃ name text, outcome = .aborted name text) ∨
              (outcome.textFault? limits.writing).isSome) ∧
          ∀ turn, answer = .turn turn → turn.sender = .agent) ∧
      (∀ text, text.isBlank → now.next limits version (.submit text) = (now, .ignored)) ∧
      (∀ text, ¬text.isBlank → now.assistant.isPending →
        now.next limits version (.submit text) = (now, .refused Assistant.busy)) ∧
      ∀ text, ¬text.isBlank → ¬now.assistant.isPending →
        (now.next limits version (.submit text)).2 = .accepted := by
  intro now past exchanges
  have hrecords := records_ofHistory limits version log welcome history
  have hwaiting : now.waiting = now.assistant.inFlight.toList := hrecords.waiting
  refine ⟨?_, ?_, ⟨hrecords.log, hrecords.texts, hrecords.endings, hrecords.settled⟩,
    ?_, ?_, ?_, ?_⟩
  · rw [hwaiting, Assistant.isPending]
    cases now.assistant.inFlight with
    | none => exact ⟨Nat.zero_le 1, nofun, nofun⟩
    | some text => exact ⟨Nat.le_refl 1, fun _ => rfl, fun _ => rfl⟩
  · rintro earlier ⟨later, rfl⟩
    show _ <+: (after limits version _ (earlier ++ later)).assistant.log
    rw [after_append]
    exact log_isPrefix_after limits version _ later
  · intro request outcome answer hmem
    obtain ⟨t, ht⟩ := exists_next_of_mem_told limits version hmem
    obtain rfl := eq_of_next_ends limits version ht
    have hends := Assistant.ends limits version outcome
    refine ⟨rfl, hends.escaped_iff, ?_⟩
    intro turn hturn
    rw [hturn] at hends
    exact hends.sender
  · intro text hblank
    exact next_submit_of_isBlank hblank
  · intro text hblank hpending
    exact next_submit_of_isPending hblank hpending
  · intro text hblank hidle
    rw [next_submit_of_idle hblank hidle]

/-- A blank submission and one that comes too early, a request that fails, one that is given up, and
one that is still open at the end. -/
def overlapping : List Happening := [
  .submit "one", .submit " ", .submit "two", .ends 0 (.raised (.other "OSError" "down")),
  .submit "three", .ends 0 (.aborted "CancelledError" []), .submit "four"]

theorem log_eq_exchanges_overlapping :
    overlapping.take 3 <+: overlapping ∧
      (ofHistory .standard "1.0" [] false (overlapping.take 3)).assistant.log <+:
        (ofHistory .standard "1.0" [] false overlapping).assistant.log ∧
      ((ofHistory .standard "1.0" [] false overlapping).assistant.log.filterMap fun
        | .userText text => some text
        | _ => none) = [Text.ofString "one", Text.ofString "three", Text.ofString "four"] ∧
      (Text.isBlank " " ∧
        (ofHistory .standard "1.0" [] false overlapping).next .standard "1.0" (.submit " ") =
          (ofHistory .standard "1.0" [] false overlapping, .ignored)) ∧
      (¬Text.isBlank "five" ∧ (ofHistory .standard "1.0" [] false overlapping).assistant.isPending ∧
        (ofHistory .standard "1.0" [] false overlapping).next .standard "1.0" (.submit "five") =
          (ofHistory .standard "1.0" [] false overlapping, .refused Assistant.busy)) := by
  obtain ⟨-, hgrows, -, -, hblank, hbusy, -⟩ :=
    log_eq_exchanges .standard "1.0" [] false overlapping
  have hfirst : overlapping.take 3 <+: overlapping := List.take_prefix ..
  have hpending : (ofHistory .standard "1.0" [] false overlapping).assistant.isPending := by decide
  refine ⟨hfirst, hgrows _ hfirst, by decide, ⟨by decide, hblank " " (by decide)⟩,
    by decide, hpending, hbusy "five" (by decide) hpending⟩

/-- A reply that nests too deep has no text, so the user's turn stays without an answer although
nothing was given up. -/
theorem exists_submission_without_answer :
    ∃ history : List Happening,
      (∀ request name text, Happening.ends request (.aborted name text) ∉ history) ∧
        (ofHistory .standard "1.0" [] false history).waiting = [] ∧
        (ofHistory .standard "1.0" [] false history).assistant.log = [.userText "hi"] := by
  refine ⟨[.submit "hi", .ends 0 (.reply (.nested Json.Value.standardRoom))], ?_, ?_, ?_⟩
  · simp
  · decide +kernel
  · decide +kernel

end Timeline

end AgentPanel
