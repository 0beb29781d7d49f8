import TenantHost.Proofs.Account.TableStart
/-!
# The table in a listing

The row of dashes is found by two of its characters, whatever stands in front of it as long as no
row there begins with a dash. The names are then the words of the lines behind it, but for the last
two. The group in an account's description is the second word of a fixed line.
-/

namespace TenantHost.Account

open Text

/-! ## The table -/

/-- The table starts behind the first dashed row with a dash at its own place. -/
theorem tableStart_of_dashed {header : List (List Char)}
    (h : ∀ row ∈ header, row.head? ≠ some '-')
    {dashes : List Char} (hfirst : dashes.head? = some '-')
    (hplace : dashes[header.length]? = some '-') (rest : List (List Char)) :
    tableStart (header ++ dashes :: rest) = .ok (header.length + 1) := by
  have hdecides : FirstToDecide (header ++ dashes :: rest) header.length dashes := by
    refine ⟨?_, ⟨(isDashed_iff_head dashes).mpr hfirst, .inl hplace⟩, ?_⟩
    · rw [List.getElem?_append_right (Nat.le_refl _), Nat.sub_self]
      rfl
    · intro earlier hearlier other hother hdecides
      rw [List.getElem?_append_left hearlier] at hother
      exact h other (List.mem_of_getElem? hother) ((isDashed_iff_head other).mp hdecides.1)
  have hlong : header.length < dashes.length := (List.getElem?_eq_some_iff.mp hplace).1
  rw [tableStart_of_first hdecides, if_neg (Nat.not_le_of_lt hlong)]

/-- The names of a listing are the words behind the row of dashes, without the last two lines. -/
theorem tableNames_of_lines {output : List Char} {header rest : List (List Char)}
    {dashes : List Char} (hlines : outputLines output = header ++ dashes :: rest)
    (h : ∀ row ∈ header, row.head? ≠ some '-') (hfirst : dashes.head? = some '-')
    (hplace : dashes[header.length]? = some '-') :
    tableNames output = .ok ((rest.take (rest.length - summaryRows)).flatMap words) := by
  have htable : ((header ++ dashes :: rest).take
    ((header ++ dashes :: rest).length - summaryRows)).drop
      (header.length + 1) = rest.take (rest.length - summaryRows) := by
    have hdrop : (header ++ dashes :: rest).drop (header.length + 1) = rest := by
      rw [List.append_cons, List.drop_left' (by simp)]
    rw [List.drop_take, hdrop]
    congr 1
    simp only [List.length_append, List.length_cons]
    omega
  simp only [tableNames, hlines, tableStart_of_dashed h hfirst hplace, htable]

/-! ## The group of an account -/

/-- A group is read just if its line has a second word; it is that word without its star. -/
theorem tableGroup_eq_ok_iff {output group : List Char} :
    tableGroup output = .ok group ↔
      ∃ row word, (outputLines output)[groupLine]? = some row ∧ (words row)[1]? = some word ∧
        dropStar word = group := by
  unfold tableGroup
  constructor
  · intro h
    split at h
    · exact absurd h (by simp)
    · next row hrow =>
      split at h
      · exact absurd h (by simp)
      · next word hword => exact ⟨row, word, hrow, hword, Except.ok.inj h⟩
  · rintro ⟨row, word, hrow, hword, rfl⟩
    simp only [hrow, hword]

theorem mem_of_mem_dropStar {text : List Char} {c : Char} (h : c ∈ dropStar text) :
    c ∈ text := by
  unfold dropStar at h
  split at h
  · exact List.mem_cons_of_mem _ h
  · exact h

end TenantHost.Account
