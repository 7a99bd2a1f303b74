import Introspect.Path
import Introspect.Proofs.Text.Cut

/-!
# Texts of paths

A path is cut at its dots and a segment at its first bracket, so a text can be taken apart where it
was put together: at a dot between two paths, and at the brackets around an index. Nothing depends on
whether brackets match, or on what an index holds.

* `Path.append`: a path that goes on where another one ends.
* `Path.IsCut`: no segment of a path has a dot in it, as in every path that a text spells.

Main results:

* `parse_append_dot`: joining two texts by a dot appends their paths.
* `parse_render`: a path without dots in its segments is what its text spells.
* `name_ofNameIndex` and `index?_ofNameIndex`: a segment that was made of a name without a bracket
  and an index gives both back.
-/

namespace Introspect

variable {name : String} {index? : Option String} {segment : Segment} {path : Path}

/-! ## Cutting at dots -/

/-- A dot ends the first piece, and any other character belongs to it. -/
theorem cutAtDots_cons (c : Char) (rest : List Char) :
    cutAtDots (c :: rest) =
      if c = '.' then ([], (cutAtDots rest).1 :: (cutAtDots rest).2)
      else (c :: (cutAtDots rest).1, (cutAtDots rest).2) := rfl

/-- A dot between two texts cuts there, whatever dots are before and after it. -/
theorem cutAtDots_append_dot (before after : List Char) :
    cutAtDots (before ++ '.' :: after) =
      ((cutAtDots before).1, (cutAtDots before).2 ++ (cutAtDots after).1 :: (cutAtDots after).2) := by
  induction before with
  | nil => rfl
  -- the dot stays where it is when one more character comes before it
  | cons c before ih =>
    rw [List.cons_append, cutAtDots_cons, cutAtDots_cons, ih]
    split <;> rfl

/-- A text without dots is one piece. -/
theorem cutAtDots_of_notMem {piece : List Char} (hDots : '.' ∉ piece) :
    cutAtDots piece = (piece, []) := by
  induction piece with
  | nil => rfl
  | cons c piece ih =>
    obtain ⟨hFirst, hRest⟩ := not_or.mp (fun h => hDots (List.mem_cons.mpr h))
    rw [cutAtDots_cons, ih hRest]
    exact if_neg (Ne.symm hFirst)

/-- No piece has a dot in it. -/
theorem dot_notMem_of_mem_cutAtDots (text : List Char) :
    ∀ piece ∈ (cutAtDots text).1 :: (cutAtDots text).2, '.' ∉ piece := by
  induction text with
  | nil => simp [cutAtDots]
  | cons c text ih =>
    obtain ⟨hFirst, hOthers⟩ := List.forall_mem_cons.mp ih
    rw [cutAtDots_cons]
    split
    · -- a dot ends the empty piece before it
      exact List.forall_mem_cons.mpr ⟨List.not_mem_nil, ih⟩
    · -- any other character joins the first piece
      rename_i hDot
      refine List.forall_mem_cons.mpr ⟨?_, hOthers⟩
      rw [List.mem_cons]
      exact not_or.mpr ⟨Ne.symm hDot, hFirst⟩

/-! ## Names and indexes -/

namespace Segment

/-- The name ends before the first bracket. -/
theorem bracket_notMem_name (segment : Segment) : '[' ∉ segment.name.toList := by
  rw [name, String.toList_ofList]
  exact Text.notMem_takeWhile_ne _

/-- A name is made of characters of its segment. -/
theorem mem_text_of_mem_name {c : Char} (h : c ∈ segment.name.toList) :
    c ∈ segment.text.toList := by
  rw [name, String.toList_ofList] at h
  exact (List.takeWhile_prefix _).subset h

/-- An index takes nothing from elsewhere. -/
theorem mem_of_mem_indexText {c : Char} {afterBracket : List Char}
    (h : c ∈ indexText afterBracket) : c ∈ afterBracket := by
  unfold indexText at h
  split at h
  · -- all but the closing bracket, or nothing at all
    split at h
    · exact (List.dropLast_subset _) h
    · cases h
  · cases h

/-- An index is made of characters of its segment. -/
theorem mem_text_of_mem_index {c : Char} {index : String} (hIndex : segment.index? = some index)
    (h : c ∈ index.toList) : c ∈ segment.text.toList := by
  unfold Segment.index? at hIndex
  split at hIndex
  · cases hIndex
  · rename_i bracket afterBracket hDrop
    cases hIndex
    rw [String.toList_ofList] at h
    -- what follows the name begins at its bracket, and the index is within it
    have hAfter : c ∈ bracket :: afterBracket := List.mem_cons_of_mem _ (mem_of_mem_indexText h)
    rw [← hDrop] at hAfter
    exact (List.dropWhile_suffix _).subset hAfter

/-- The last byte that an index goes without is the bracket that closes it. -/
theorem indexText_concat (index : List Char) : indexText (index ++ [']']) = index := by
  unfold indexText
  rw [List.getLast?_concat, List.dropLast_concat]
  rfl

theorem toList_ofNameIndex_none : (ofNameIndex name none).text.toList = name.toList := rfl

theorem toList_ofNameIndex_some (index : String) :
    (ofNameIndex name (some index)).text.toList = name.toList ++ '[' :: (index.toList ++ [']']) := by
  show (name ++ "[" ++ index ++ "]").toList = _
  simp

theorem name_of_notMem (hBracket : '[' ∉ segment.text.toList) : segment.name = segment.text := by
  rw [Segment.name, Text.takeWhile_ne_of_notMem hBracket, String.ofList_toList]

theorem index?_of_notMem (hBracket : '[' ∉ segment.text.toList) : segment.index? = none := by
  rw [Segment.index?, Text.dropWhile_ne_of_notMem hBracket]

/-- The first bracket ends the name, whatever stands after it. -/
theorem name_of_bracket {before afterBracket : List Char}
    (hText : segment.text.toList = before ++ '[' :: afterBracket) (hBracket : '[' ∉ before) :
    segment.name = String.ofList before := by
  rw [Segment.name, hText, Text.takeWhile_ne_append hBracket (by simp)]

/-- Behind the first bracket comes the index, whatever stands before it. -/
theorem index?_of_bracket {before afterBracket : List Char}
    (hText : segment.text.toList = before ++ '[' :: afterBracket) (hBracket : '[' ∉ before) :
    segment.index? = some (String.ofList (indexText afterBracket)) := by
  rw [Segment.index?, hText, Text.dropWhile_ne_append hBracket (by simp)]

/-- The name that a segment was made of is its name. -/
@[simp] theorem name_ofNameIndex (hBracket : '[' ∉ name.toList) :
    (ofNameIndex name index?).name = name := by
  cases index? with
  | none => exact name_of_notMem hBracket
  | some index => rw [name_of_bracket (toList_ofNameIndex_some index) hBracket, String.ofList_toList]

/-- And the index that it was made of is its index. -/
@[simp] theorem index?_ofNameIndex (hBracket : '[' ∉ name.toList) :
    (ofNameIndex name index?).index? = index? := by
  cases index? with
  | none => exact index?_of_notMem hBracket
  | some index =>
    rw [index?_of_bracket (toList_ofNameIndex_some index) hBracket, indexText_concat,
      String.ofList_toList]

end Segment

/-! ## Paths and their texts -/

namespace Path

/-- A path that goes on with the segments of another one. -/
def append (front rest : Path) : Path := ⟨front.head, front.tail ++ rest.segments⟩

instance : Append Path := ⟨append⟩

/-- No segment has a dot in it. -/
def IsCut (path : Path) : Prop := ∀ segment ∈ path.segments, '.' ∉ segment.text.toList

/-- A text is cut at its dots, so none is left in its path. -/
theorem isCut_parse (text : String) : (parse text).IsCut := by
  intro segment hSegment
  obtain ⟨piece, hPiece, rfl⟩ : ∃ piece ∈ (cutAtDots text.toList).1 :: (cutAtDots text.toList).2,
      (⟨String.ofList piece⟩ : Segment) = segment := List.mem_map.mp hSegment
  rw [String.toList_ofList]
  exact dot_notMem_of_mem_cutAtDots _ _ hPiece

/-- **Joining two texts by a dot appends their paths**, wherever there are brackets. -/
theorem parse_append_dot (front rest : String) :
    parse (front ++ "." ++ rest) = parse front ++ parse rest := by
  -- as characters, the text is the two texts with a dot between them
  have hText : (front ++ "." ++ rest).toList = front.toList ++ '.' :: rest.toList := by simp
  unfold parse
  rw [hText, cutAtDots_append_dot]
  show (⟨_, _⟩ : Path) = ⟨_, _⟩
  simp [segments]

/-- A segment without dots is a path of its own. -/
theorem parse_text (hDots : '.' ∉ segment.text.toList) : parse segment.text = ⟨segment, []⟩ := by
  unfold parse
  rw [cutAtDots_of_notMem hDots]
  simp

/-- **A path is what its text spells**, unless a dot in a segment was taken for one between
segments. -/
theorem parse_render (hCut : path.IsCut) : parse path.render = path := by
  -- the text of the rest is joined by a dot, and read back in the same way
  obtain ⟨head, tail⟩ := path
  induction tail generalizing head with
  | nil =>
    have hText : render ⟨head, []⟩ = head.text := by simp [render, segments]
    rw [hText, parse_text (hCut head List.mem_cons_self)]
  | cons next rest ih =>
    obtain ⟨hHead, hRest⟩ := List.forall_mem_cons.mp hCut
    have hText : render ⟨head, next :: rest⟩ = head.text ++ "." ++ render ⟨next, rest⟩ :=
      String.intercalate_cons_cons
    rw [hText, parse_append_dot, parse_text hHead, ih next hRest]
    rfl

end Path

end Introspect
