import AgentPanel.Proofs.Reader.Cuts
import AgentPanel.Proofs.Repair.Truncation

/-!
# Which truncations are recovered

A beginning of an object text is repaired to JSON unless it stops at a lost place: inside a key or
before its value, behind a comma, among the digits of an escape, or inside a word or a number if the
part that has been read is not a value itself (`repair_recovers_iff`).
-/

namespace AgentPanel.Json

/-- A beginning of a JSON text without blanks before it stops at the given place. -/
def StopsIn (t p : Text) (stop : Stop) : Prop :=
  ∃ (d : Document) (after : Text), d.Proper ∧ Document.Blanks after ∧ t = d.text ++ after ∧
    d.StopsAt after p stop

namespace Reader

variable {limit : Nat} {t p : Text} {v : Value}

/-- An object text is a document with no blanks before it. -/
theorem exists_document_of_curly (h : decodeWithin? limit t = some v)
    (hcurly : t.head? = some '\x7b') :
    ∃ (d : Document) (after : Text), d.Proper ∧ Document.Blanks after ∧ t = d.text ++ after := by
  obtain ⟨d, ⟨proper, before, after, hbefore, hafter, rfl⟩, -⟩ :=
    exists_document_of_decodeWithin? h
  cases before with
  | nil => exact ⟨d, after, proper, hafter, rfl⟩
  | cons c before =>
    cases hcurly
    exact absurd (hbefore _ (List.mem_cons_self ..)) (by decide)

theorem isSome_decodeWithin?_repair_iff {stop : Stop} (h : decodeWithin? limit t = some v)
    (hp : p <+: t) (hstop : StopsIn t p stop) :
    (decodeWithin? limit (Reply.repair p)).isSome ↔ ¬stop.IsLost limit := by
  obtain ⟨d, after, proper, hafter, ht, hstop⟩ := hstop
  have hvalue : d.value? = some v :=
    value?_of_spells ⟨proper, [], after, blanks_nil, hafter, ht⟩ h
  obtain ⟨rest, rfl⟩ := hp
  obtain ⟨_, hrun, -⟩ := Option.bind_eq_some_iff.mp h
  rw [run_append] at hrun
  obtain ⟨σ, hσ, -⟩ := Option.bind_eq_some_iff.mp hrun
  rw [decodeWithin?_repair, hσ, Option.bind_some, State.cut?, Option.map_eq_map, Option.isSome_map]
  exact closesAt hstop proper hafter (by rw [hvalue]; rfl) [] σ hσ

end Reader

end AgentPanel.Json

namespace AgentPanel.Reply

open Json (decode? decodeWithin? Document Stop StopsIn Value)

/-- Every beginning of an object text stops somewhere, and repair makes it JSON exactly if it does
not stop at a lost place. In particular repair recovers what stops behind an opening bracket, behind
a complete value, or inside a string value but not among the digits of an escape. -/
theorem repair_recovers_iff {limit : Nat} {t p : Text} {v : Value}
    (h : decodeWithin? limit t = some v) (hcurly : t.head? = some '\x7b') (hp : p <+: t)
    (hne : p ≠ []) :
    (∃ stop, StopsIn t p stop) ∧
      ∀ stop, StopsIn t p stop →
        ((decodeWithin? limit (repair p)).isSome ↔ ¬stop.IsLost limit) ∧
          (stop ∈ [.opened, .inString, .afterBackslash, .afterValue] →
            (decodeWithin? limit (repair p)).isSome) := by
  constructor
  · obtain ⟨d, after, proper, hafter, rfl⟩ := Json.Reader.exists_document_of_curly h hcurly
    obtain ⟨stop, hstop⟩ := Document.stopsInDocument d proper after p hp hne
    exact ⟨stop, d, after, proper, hafter, rfl, hstop⟩
  · intro stop hstop
    have hrecovers := Json.Reader.isSome_decodeWithin?_repair_iff h hp hstop
    refine ⟨hrecovers, fun hmem => hrecovers.mpr ?_⟩
    simp only [List.mem_cons, List.not_mem_nil, or_false] at hmem
    rcases hmem with rfl | rfl | rfl | rfl <;> exact not_false

/-- A document with one string, one of whose code points is an escape. -/
def escapeDocument : Document :=
  .object [] [(⟨[], [.plain 'a'], []⟩,
    ⟨[], .array [] [⟨[], .string [.plain 'b', .long "00e9"], []⟩], []⟩)]

/-- The string is cut behind the backslash and behind two hexadecimal digits. -/
theorem repair_recovers_iff_escape :
    StopsIn "\x7b\"a\":[\"b\\u00e9\"]\x7d" "\x7b\"a\":[\"b\\" .afterBackslash ∧
      (decode? (repair "\x7b\"a\":[\"b\\")).isSome ∧
      StopsIn "\x7b\"a\":[\"b\\u00e9\"]\x7d" "\x7b\"a\":[\"b\\u00" .inHex ∧
      ¬(decode? (repair "\x7b\"a\":[\"b\\u00")).isSome := by
  have hwhole : (decode? "\x7b\"a\":[\"b\\u00e9\"]\x7d").isSome := by decide +kernel
  obtain ⟨v, hv⟩ := Option.isSome_iff_exists.mp hwhole
  have proper : escapeDocument.Proper := by
    simp [escapeDocument, Document.Proper, Document.ProperItems, Document.ProperMembers,
      Document.Blanks, Json.Atom.Proper]
    decide
  have hslash :
      StopsIn "\x7b\"a\":[\"b\\u00e9\"]\x7d" "\x7b\"a\":[\"b\\" .afterBackslash :=
    ⟨escapeDocument, [], proper, Json.Reader.blanks_nil, by decide,
      .member [] [] (.item [] [] (.backslash [.plain 'b'] [] rfl))⟩
  have hhex : StopsIn "\x7b\"a\":[\"b\\u00e9\"]\x7d" "\x7b\"a\":[\"b\\u00" .inHex :=
    ⟨escapeDocument, [], proper, Json.Reader.blanks_nil, by decide,
      .member [] [] (.item [] [] (.hex [.plain 'b'] "00" [] (by decide)))⟩
  refine ⟨hslash, ?_, hhex, ?_⟩
  · exact ((repair_recovers_iff hv rfl (by decide) (by decide)).2 _ hslash).2 (by decide)
  · intro h
    exact ((repair_recovers_iff hv rfl (by decide) (by decide)).2 _ hhex).1.mp h trivial

end AgentPanel.Reply
