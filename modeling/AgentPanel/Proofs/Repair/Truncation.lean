import AgentPanel.Proofs.Reader.Documents

/-!
# Repair invents nothing

A prefix of a strict JSON text is repaired to a text that is not JSON or whose value is a truncation
of the document that was cut (`repair_truncates`).

Truncated strings are defined by their spelling. What they come to in code points is a first part of
the string, behind which a cut inside a pair of escapes leaves the first half of the pair, and a cut
inside an escape a backslash (`Atom.Truncation.exists_kept`).
-/

namespace AgentPanel.Json

/-! ## Truncated strings -/

/-- The first atoms of a string spell a first part of it, unless they end inside a pair. -/
theorem Atom.points_append (kept lost : List Atom) :
    points kept <+: points (kept ++ lost) ∨
      ∃ (first : Text) (high : CodePoint), high.isHighSurrogate ∧ points kept = first ++ [high] ∧
        first <+: points (kept ++ lost) := by
  fun_induction points kept with
  | case1 => exact .inl List.nil_prefix
  | case2 a =>
    cases lost with
    | nil => exact .inl (List.prefix_refl _)
    | cons b lost =>
      cases hpair : isPair a b with
      | false =>
        have htext : points ([a] ++ b :: lost) = [a.point] ++ points (b :: lost) :=
          points_cons_cons hpair lost
        exact .inl ⟨_, htext.symm⟩
      | true =>
        refine .inr ⟨[], a.point, ?_, rfl, List.nil_prefix⟩
        cases a <;> cases b <;> simp_all [isPair]
  | case3 a b rest hpair ih =>
    have htext : points (a :: b :: rest ++ lost) =
        .joinSurrogates a.point b.point :: points (rest ++ lost) := by
      rw [List.cons_append, List.cons_append, points, if_pos hpair]
    rw [htext]
    rcases ih with hkept | ⟨first, high, hhigh, hkept, hfirst⟩
    · exact .inl (List.cons_prefix_cons.mpr ⟨rfl, hkept⟩)
    · exact .inr ⟨_ :: first, high, hhigh, by rw [hkept]; rfl,
        List.cons_prefix_cons.mpr ⟨rfl, hfirst⟩⟩
  | case4 a b rest hpair ih =>
    have htext : points (a :: b :: rest ++ lost) = a.point :: points (b :: rest ++ lost) := by
      rw [List.cons_append, List.cons_append]
      exact points_cons_cons (by simpa using hpair) _
    rw [htext]
    rcases ih with hkept | ⟨first, high, hhigh, hkept, hfirst⟩
    · exact .inl (List.cons_prefix_cons.mpr ⟨rfl, hkept⟩)
    · exact .inr ⟨_ :: first, high, hhigh, by rw [hkept]; rfl,
        List.cons_prefix_cons.mpr ⟨rfl, hfirst⟩⟩

/-- What may be left of a string: a first part of it, perhaps the first half of a pair, and perhaps
a backslash. -/
theorem Atom.Truncation.exists_kept {t : Text} {atoms : List Atom} (h : Truncation t atoms) :
    ∃ kept half slash : Text, t = kept ++ half ++ slash ∧ kept <+: points atoms ∧
      (half = [] ∨ ∃ high, half = [high] ∧ high.isHighSurrogate) ∧
      (slash = [] ∨ slash = [CodePoint.scalar '\\']) := by
  cases h with
  | between kept lost =>
    rcases points_append kept lost with hkept | ⟨first, high, hhigh, hkept, hfirst⟩
    · exact ⟨_, [], [], by simp, hkept, .inl rfl, .inl rfl⟩
    · exact ⟨first, [high], [], by simp [hkept], hfirst, .inr ⟨high, rfl, hhigh⟩, .inl rfl⟩
  | inside kept a lost hescape =>
    rcases points_append kept (a :: lost) with hkept | ⟨first, high, hhigh, hkept, hfirst⟩
    · exact ⟨_, [], _, by simp, hkept, .inl rfl, .inr rfl⟩
    · exact ⟨first, [high], _, by simp [hkept], hfirst, .inr ⟨high, rfl, hhigh⟩, .inr rfl⟩

/-! ## Cut texts -/

namespace Reader

variable {limit : Nat}

/-- Where a document has been read and the text may end, its value has been read. -/
theorem Reads.value?_of_finish? {d : Document} {σ : State} {v : Value} (h : Reads [] d σ)
    (hfinish : σ.finish? = some v) : d.value? = some v := by
  cases h with
  | whole hv =>
    cases hfinish
    exact hv
  | @number literal stage hd complete =>
    have hvalue : (if stage.isComplete then numberValue? literal.reverse.reverse else none) =
        some v := hfinish
    rw [if_pos complete, List.reverse_reverse] at hvalue
    rw [hd]
    exact hvalue

theorem along_of_spells {d : Document} {t : Text} (h : d.Spells t) :
    Along limit (CutsDocument [] d) (Reads [] d) .start t := by
  obtain ⟨proper, before, after, hbefore, hafter, rfl⟩ := h
  rw [List.append_assoc]
  exact (alongDocument d proper).blanks hbefore hafter

/-- All documents of an accepted text have its value. -/
theorem value?_of_spells {d : Document} {t : Text} {v : Value} (hd : d.Spells t)
    (h : decodeWithin? limit t = some v) : d.value? = some v := by
  obtain ⟨σ, hrun, hfinish⟩ := Option.bind_eq_some_iff.mp h
  exact ((along_of_spells hd).at_end hrun).value?_of_finish? hfinish

theorem truncation_of_spells {d : Document} {p t : Text} {w : Value} (hd : d.Spells t)
    (distinct : d.DistinctKeys) (hp : p <+: t)
    (hw : decodeWithin? limit (Reply.repair p) = some w) :
    Document.Truncation w d := by
  obtain ⟨rest, rfl⟩ := hp
  rw [decodeWithin?_repair] at hw
  obtain ⟨σ, hrun, hcut⟩ := Option.bind_eq_some_iff.mp hw
  obtain ⟨u, hu, rfl⟩ := Option.map_eq_some_iff.mp hcut
  have hne : p ≠ [] := by
    rintro rfl
    cases hrun
    cases hu
  obtain ⟨inner, hframes, hinner⟩ := ((along_of_spells hd).of_run hrun).1 hne
  rw [List.append_nil] at hframes
  rw [hframes]
  exact hinner u hu distinct

end Reader

end AgentPanel.Json

namespace AgentPanel.Reply

open Json (decode? decodeWithin? Document Value)

/-- A strict JSON text is the text of a document with its value. If no object in it repeats a key,
every prefix of the text that repair makes valid has a truncation of that document as its value. -/
theorem repair_truncates {limit : Nat} {t : Text} {v : Value}
    (h : decodeWithin? limit t = some v) :
    (∃ d : Document, d.Spells t ∧ d.value? = some v) ∧
      ∀ d : Document, d.Spells t → d.value? = some v ∧
        (d.DistinctKeys → ∀ p w, p <+: t → decodeWithin? limit (repair p) = some w →
          Document.Truncation w d) := by
  refine ⟨Json.Reader.exists_document_of_decodeWithin? h, fun d hd => ?_⟩
  refine ⟨Json.Reader.value?_of_spells hd h, fun distinct p w hp hw => ?_⟩
  exact Json.Reader.truncation_of_spells hd distinct hp hw

/-- An array with one string, cut inside the second half of a pair of escapes. -/
theorem repair_truncates_pair :
    decode? "[\"\\ud83d\\ude42\"]" = some (.array [.text ['🙂']]) ∧
      decode? (repair "[\"\\ud83d\\") = some (.array [.text [.surrogate 0x3d, '\\']]) ∧
      Document.Truncation (.array [.text [.surrogate 0x3d, '\\']])
        (.array [] [⟨[], .string [.long "d83d", .long "de42"], []⟩]) := by
  have hwhole : decode? "[\"\\ud83d\\ude42\"]" = some (.array [.text ['🙂']]) := by
    decide +kernel
  have hcut : decode? (repair "[\"\\ud83d\\") =
      some (.array [.text [.surrogate 0x3d, '\\']]) := by decide +kernel
  have hspells : (Document.array [] [⟨[], .string [.long "d83d", .long "de42"], []⟩]).Spells
      "[\"\\ud83d\\ude42\"]" := by
    refine ⟨?_, [], [], Json.Reader.blanks_nil, Json.Reader.blanks_nil, by decide⟩
    simp [Document.Proper, Document.ProperItems, Document.Blanks, Json.Atom.Proper]
    decide
  have hdistinct :
      (Document.array [] [⟨[], .string [.long "d83d", .long "de42"], []⟩]).DistinctKeys :=
    ⟨trivial, trivial⟩
  refine ⟨hwhole, hcut, ?_⟩
  exact ((repair_truncates hwhole).2 _ hspells).2 hdistinct _ _ (by decide) hcut

end AgentPanel.Reply
