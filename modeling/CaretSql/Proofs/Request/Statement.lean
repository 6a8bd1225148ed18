import CaretSql.Proofs.Request.Region
import CaretSql.Proofs.Token.Blank

/-! What a caret sends is one statement by itself. The regions of a text are runs of its tokens
without a delimiter, a region restarts lexing in the state in which the scan of the whole text
passes its start, and trimming a region keeps what its tokens hold. -/

namespace CaretSql

namespace Request

open Token

variable {d : Document} {before inside after : List Token} {r : Request}

theorem slice_joined (hd : d.chars = joined (before ++ inside ++ after)) :
    d.slice (joined before).length ((joined before).length + (joined inside).length) =
      joined inside := by
  rw [Document.slice, hd, joined_append, joined_append, ← List.length_append,
    List.take_left' rfl, List.drop_left' rfl]

theorem mem_place_inside {o : Nat} {t : Token}
    (h : (o, t) ∈ place (joined before).length inside) :
    (o, t) ∈ place 0 (before ++ inside ++ after) := by
  rw [place_append, place_append, Nat.zero_add]
  exact List.mem_append_left _ (List.mem_append_right _ h)

/-- A region of whole tokens counts if one that is not a comment has a character that is not
blank. -/
theorem live_iff_holdsCode (hd : d.chars = joined (before ++ inside ++ after)) :
    Live d (Lexemes.ofTokens 0 (before ++ inside ++ after)) (joined before).length
      ((joined before).length + (joined inside).length) ↔ HoldsCode inside := by
  rw [Live, slice_joined hd]
  constructor
  · rintro ⟨i, c, hget, hb, hin⟩
    obtain ⟨hi, -⟩ := List.getElem?_eq_some_iff.mp hget
    obtain ⟨o, t, hmem, hle, hlt⟩ := exists_place hi (joined before).length
    have hstart := (place_bounds hmem).1
    refine ⟨t, mem_of_mem_place hmem, ?_, c, ?_, hb⟩
    · rw [Bool.eq_false_iff]
      intro hcomment
      rw [Bool.eq_false_iff] at hin
      exact hin (Lexemes.inComment_iff.mpr ⟨o, t, mem_place_inside hmem, hcomment, hle, hlt⟩)
    · have hchar := place_getElem? hmem ((joined before).length + i - o) (by omega)
      have hindex : o - (joined before).length + ((joined before).length + i - o) = i := by omega
      rw [hindex, hget] at hchar
      exact List.mem_of_getElem? hchar.symm
  · rintro ⟨t, ht, hcomment, c, hc, hb⟩
    obtain ⟨o, hmem⟩ := exists_mem_place ht (joined before).length
    obtain ⟨j, hj⟩ := List.getElem?_of_mem hc
    obtain ⟨hlt, -⟩ := List.getElem?_eq_some_iff.mp hj
    have hstart := (place_bounds hmem).1
    refine ⟨o - (joined before).length + j, c, ?_, hb, ?_⟩
    · rw [place_getElem? hmem j hlt, hj]
    · exact Lexemes.inComment_of_mem_place (mem_place_inside hmem) hcomment (by omega) (by omega)

/-- A run of tokens between two delimiters or the ends of a text. -/
structure Between (ts before inside : List Token) : Prop where
  pieces : ∃ after, ts = before ++ inside ++ after
  undelimited : Token.delimiter ∉ inside
  start : before = [] ∨ ∃ more, before = more ++ [Token.delimiter]

theorem Between.onward {ts run : List Token} (h : Between ts before inside) :
    Between (run ++ Token.delimiter :: ts) (run ++ Token.delimiter :: before) inside := by
  obtain ⟨after, rfl⟩ := h.pieces
  refine ⟨⟨after, by simp⟩, h.undelimited, Or.inr ?_⟩
  rcases h.start with rfl | ⟨more, rfl⟩
  · exact ⟨run, rfl⟩
  · exact ⟨run ++ Token.delimiter :: more, by simp⟩

end Request

open Request

end CaretSql
