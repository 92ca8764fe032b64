import SourceAtlas.Proofs.Params.Items

/-!
# Pieces of entries

The entries of a list parameter are cut at their commas, each by itself.  So entries may be cut apart or
joined with commas beforehand, lists may be given one after the other, and items stay as they are.
-/

namespace SourceAtlas.Value

open Text

theorem items?_texts (ts : List Text) :
    (list (ts.map .text)).items? = some (items?.pieces ts) := by
  have htexts : (ts.map text).map item = ts := by
    rw [List.map_map]
    exact List.map_id' ts
  rw [items?, htexts]

/-- Texts without commas are only trimmed. -/
theorem pieces_of_not_mem {ts : List Text} (h : ∀ t ∈ ts, ',' ∉ t) :
    items?.pieces ts = (ts.map trim).filter (· ≠ []) := by
  rw [items?.pieces, ← List.map_flatMap, flatMap_splitOn_of_not_mem h]

/-- Items are pieces of themselves. -/
theorem pieces_of_isItem {ts : List Text} (h : ∀ t ∈ ts, IsItem t) : items?.pieces ts = ts := by
  have htrim : ts.map trim = ts := by
    rw [List.map_congr_left fun t ht => trim_eq_self (h t ht).first (h t ht).last, List.map_id']
  rw [pieces_of_not_mem fun t ht => (h t ht).comma, htrim, List.filter_eq_self]
  simpa using fun t ht => (h t ht).ne_nil

/-- Cutting entries at their commas beforehand changes no piece. -/
theorem pieces_flatMap_splitOn (ts : List Text) :
    items?.pieces (ts.flatMap (splitOn ',')) = items?.pieces ts := by
  have hcomma : ∀ t ∈ ts.flatMap (splitOn ','), ',' ∉ t := by
    intro t ht
    obtain ⟨entry, -, hentry⟩ := List.mem_flatMap.mp ht
    exact not_mem_of_mem_splitOn hentry
  rw [pieces_of_not_mem hcomma, List.map_flatMap, items?.pieces]

theorem pieces_append (ts us : List Text) :
    items?.pieces (ts ++ us) = items?.pieces ts ++ items?.pieces us := by
  simp only [items?.pieces, List.flatMap_append, List.filter_append]

/-- Joining entries with commas changes no piece; no entries are joined to one without pieces. -/
theorem pieces_join (ts : List Text) : items?.pieces [join [','] ts] = items?.pieces ts := by
  by_cases hne : ts = []
  · subst hne
    rfl
  · rw [← pieces_flatMap_splitOn [join [','] ts], List.flatMap_singleton, splitOn_join_eq_flatMap hne,
      pieces_flatMap_splitOn]

/-- A list of texts has the items of the one text that joins them with commas, given by itself or as the only
entry of a list, and lists given one after the other have the items of each in turn.  No item is empty, holds a
comma or has white space at its ends, and as a list the items are their own items. -/
theorem lists_may_be_joined_with_commas (ts us : List Text) :
    ∃ items more, (list (ts.map text)).items? = some items ∧ (list (us.map text)).items? = some more ∧
      (text (join [','] ts)).items? = some items ∧
      (list [text (join [','] ts)]).items? = some items ∧
      (list (ts.map text ++ us.map text)).items? = some (items ++ more) ∧
      (∀ t ∈ items, t ≠ [] ∧ ',' ∉ t ∧ trim t = t) ∧
      (list (items.map text)).items? = some items := by
  have hitems : ∀ t ∈ items?.pieces ts, IsItem t := fun _ => isItem_of_mem_pieces
  have hjoined : (text (join [','] ts)).items? = some (items?.pieces ts) :=
    congrArg some (pieces_join ts)
  refine ⟨items?.pieces ts, items?.pieces us, items?_texts ts, items?_texts us, hjoined, ?_, ?_, ?_, ?_⟩
  · exact (items?_texts [join [','] ts]).trans hjoined
  · rw [← List.map_append, items?_texts, pieces_append]
  · intro t ht
    exact ⟨(hitems t ht).ne_nil, (hitems t ht).comma, trim_eq_self (hitems t ht).first (hitems t ht).last⟩
  · rw [items?_texts, pieces_of_isItem hitems]

/-- White space is no piece, however it is joined. -/
example : (list [text " a,, b".toList, text ['\u2003'], text "c ,".toList]).items? =
    (text " a,, b,\u2003,c ,".toList).items? := by
  decide

end SourceAtlas.Value
