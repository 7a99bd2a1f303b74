import Introspect.Path.Token
import Introspect.Proofs.Path
import Mathlib.Data.List.Chain

/-!
# Tokens of paths

Reading a path token by token, by byte offsets, gives the segments that cutting it at its dots
gives. Every offset at which the text is cut is the place of a dot or of a bracket, or the place
after one, so it lies between two characters, whatever characters stand around it; only the end of
an index may lie inside a character.

* `Path.token` — what is read of a path first.
* `Path.tokens` — what is read of it one after the other.

Main results:

* `cutIndex?_eq`: a segment is cut into its name and its index.
* `readAll?_render`: a text is read as the tokens of its path.
* `path_tokens_exact`: tokens lose nothing of the text, and give back what it was put together from.
-/

namespace Introspect

open Text

/-! ## Cutting at offsets -/

/-- A text is cut in two after as many bytes as the first part takes. -/
theorem cutAt?_append (before after : List Char) :
    cutAt? (byteCount before) (before ++ after) = some (before, after) := by
  induction before with
  | nil => simp [cutAt?]
  | cons c before ih =>
    -- every character takes at least one byte, so the offset is beyond it
    obtain ⟨offset, hOffset⟩ : ∃ offset, c.utf8Size + byteCount before = offset + 1 :=
      Nat.exists_eq_succ_of_ne_zero (Nat.ne_of_gt (Nat.add_pos_left c.utf8Size_pos _))
    have hRest : offset + 1 - c.utf8Size = byteCount before := by omega
    rw [byteCount_cons, hOffset, List.cons_append, cutAt?, if_pos (by omega), hRest, ih]
    rfl

/-- An offset inside a character is no place to cut. -/
theorem cutAt?_inside (before after : List Char) (c : Char) (extra : Nat) (hAfter : 0 < extra)
    (hInside : extra < c.utf8Size) :
    cutAt? (byteCount before + extra) (before ++ c :: after) = none := by
  induction before with
  | nil =>
    obtain ⟨offset, rfl⟩ : ∃ offset, extra = offset + 1 :=
      Nat.exists_eq_succ_of_ne_zero (Nat.ne_of_gt hAfter)
    rw [byteCount_nil, Nat.zero_add, List.nil_append, cutAt?, if_neg (by omega)]
  | cons other before ih =>
    obtain ⟨offset, hOffset⟩ : ∃ offset, other.utf8Size + byteCount before + extra = offset + 1 :=
      Nat.exists_eq_succ_of_ne_zero (by omega)
    -- past the first character, the offset is by its bytes smaller
    have hRest : offset + 1 - other.utf8Size = byteCount before + extra := by omega
    rw [byteCount_cons, hOffset, List.cons_append, cutAt?]
    split
    · rw [hRest, ih]
      rfl
    · rfl

/-- A piece of a text begins where the text before it ends. -/
theorem slice?_append (before piece after : List Char) :
    slice? (byteCount before) (byteCount before + byteCount piece) (before ++ piece ++ after) =
      some piece := by
  -- the end of the piece is cut first, and then its beginning
  have hFront : cutAt? (byteCount before + byteCount piece) (before ++ piece ++ after) =
      some (before ++ piece, after) := by
    rw [← byteCount_append]
    exact cutAt?_append (before ++ piece) after
  unfold slice?
  rw [if_pos (Nat.le_add_right _ _), hFront, Option.bind_some, cutAt?_append]
  rfl

/-- A piece at the beginning of a text. -/
theorem slice?_initial (before after : List Char) :
    slice? 0 (byteCount before) (before ++ after) = some before := by
  have hSlice := slice?_append [] before after
  rwa [byteCount_nil, Nat.zero_add, List.nil_append] at hSlice

/-- A mark comes after the bytes of what has no such mark. -/
theorem offsetOf?_append {mark : Char} {before : List Char} (hBefore : mark ∉ before)
    (after : List Char) : offsetOf? mark (before ++ mark :: after) = some (byteCount before) := by
  induction before with
  | nil => simp [offsetOf?]
  | cons c before ih =>
    obtain ⟨hFirst, hRest⟩ := not_or.mp (fun h => hBefore (List.mem_cons.mpr h))
    rw [List.cons_append, offsetOf?, if_neg (Ne.symm hFirst), ih hRest]
    simp

/-- A mark that is not there has no place. -/
theorem offsetOf?_of_notMem {mark : Char} {text : List Char} (hText : mark ∉ text) :
    offsetOf? mark text = none := by
  induction text with
  | nil => rfl
  | cons c text ih =>
    obtain ⟨hFirst, hRest⟩ := not_or.mp (fun h => hText (List.mem_cons.mpr h))
    rw [offsetOf?, if_neg (Ne.symm hFirst), ih hRest]
    rfl

/-! ## Tokens -/

namespace Token

/-- A text without dots is cut off whole, and nothing remains. -/
theorem cutFirst?_of_notMem {text : List Char} (hDots : '.' ∉ text) :
    cutFirst? text = some (text, none) := by
  unfold cutFirst?
  rw [offsetOf?_of_notMem hDots]

/-- What is cut off ends at the first dot, and the rest remains. -/
theorem cutFirst?_append_dot {first : List Char} (hDots : '.' ∉ first) (rest : List Char) :
    cutFirst? (first ++ '.' :: rest) = some (first, some rest) := by
  -- the dot itself takes up one byte
  have hRest : slice? (byteCount first + 1) (byteCount (first ++ '.' :: rest))
      (first ++ '.' :: rest) = some rest := by
    have hSlice := slice?_append (first ++ ['.']) rest []
    simp only [byteCount_append, byteCount_cons, byteCount_nil, List.append_assoc,
      List.cons_append, List.nil_append, List.append_nil] at hSlice ⊢
    rw [← Nat.add_assoc]
    exact hSlice
  unfold cutFirst?
  rw [offsetOf?_append hDots]
  -- the first piece, from the beginning to the dot
  show (slice? 0 _ _).bind _ = _
  rw [slice?_initial, Option.bind_some]
  -- the other one, from behind the dot to the end
  show (slice? _ _ _).bind _ = _
  rw [hRest]
  rfl

/-- What stands between an opening bracket and the last byte of the segment. -/
theorem slice?_index (name afterBracket : List Char) :
    (slice? (byteCount name + 1)
        (max (byteCount (name ++ '[' :: afterBracket) - 1) (byteCount name + 1))
        (name ++ '[' :: afterBracket)).getD [] = indexText afterBracket := by
  have hOpen : '['.utf8Size = 1 := rfl
  rcases List.eq_nil_or_concat afterBracket with rfl | ⟨index, last, rfl⟩
  · -- nothing follows the bracket, and the index begins and ends after it
    have hSlice := slice?_append (name ++ ['[']) [] []
    simp only [byteCount_append, byteCount_cons, byteCount_nil, List.append_nil, Nat.add_zero,
      hOpen] at hSlice ⊢
    rw [Nat.max_eq_right (by omega), hSlice]
    rfl
  · have hLast := last.utf8Size_pos
    rw [List.concat_eq_append]
    unfold indexText
    rw [List.getLast?_concat, List.dropLast_concat]
    simp only [byteCount_append, byteCount_cons, byteCount_nil, hOpen, Nat.add_zero]
    split
    · -- the last character is the last byte
      rename_i hByte
      have hSlice := slice?_append (name ++ ['[']) index [last]
      simp only [byteCount_append, byteCount_cons, byteCount_nil, hOpen, Nat.add_zero,
        List.append_assoc, List.cons_append, List.nil_append] at hSlice
      have hStop : max (byteCount name + (1 + (byteCount index + last.utf8Size)) - 1)
          (byteCount name + 1) = byteCount name + 1 + byteCount index := by
        rw [hByte]
        omega
      rw [hStop, hSlice]
      rfl
    · -- the last byte lies inside the last character
      rename_i hBytes
      have hInside := cutAt?_inside (name ++ '[' :: index) [] last (last.utf8Size - 1) (by omega)
        (by omega)
      simp only [byteCount_append, byteCount_cons, hOpen, List.append_assoc, List.cons_append]
        at hInside
      have hStop : max (byteCount name + (1 + (byteCount index + last.utf8Size)) - 1)
          (byteCount name + 1) =
            byteCount name + (1 + byteCount index) + (last.utf8Size - 1) := by
        omega
      rw [hStop]
      unfold slice?
      rw [if_pos (by omega), hInside]
      rfl

/-- **A segment is cut into its name and its index.** -/
theorem cutIndex?_eq (segment : Segment) :
    cutIndex? segment.text.toList =
      some (segment.name.toList, segment.index?.map String.toList) := by
  unfold cutIndex?
  by_cases hBracket : '[' ∈ segment.text.toList
  · obtain ⟨before, afterBracket, hText, hBefore⟩ := List.eq_append_cons_of_mem hBracket
    -- there are bytes, since there is a bracket
    have hSome : byteCount (before ++ '[' :: afterBracket) ≠ 0 := by
      rw [byteCount_append, byteCount_cons]
      exact Nat.ne_of_gt (Nat.add_pos_right _ (Nat.add_pos_left (Char.utf8Size_pos _) _))
    rw [Segment.name_of_bracket hText hBefore, Segment.index?_of_bracket hText hBefore, hText,
      offsetOf?_append hBefore]
    -- the last byte is there to be looked at
    show (lastByte? _).bind _ = _
    rw [lastByte?, if_neg hSome, Option.bind_some]
    -- the name is cut off before the bracket
    show (slice? 0 _ _).bind _ = _
    rw [slice?_initial, Option.bind_some, slice?_index, Option.map_some, String.toList_ofList,
      String.toList_ofList]
    rfl
  · -- without a bracket, all is name
    rw [Segment.name_of_notMem hBracket, Segment.index?_of_notMem hBracket,
      offsetOf?_of_notMem hBracket]
    rfl

end Token

/-! ## Paths as tokens -/

namespace Path

/-- What is read of a path first. -/
def token (path : Path) : Token :=
  { name := path.head.name, indexedName := path.head.text, index? := path.head.index?
    remainder? := path.next?.map render }

/-- What is read of a path, one token after the other. -/
def tokens : Path → List Token
  | ⟨head, []⟩ => [token ⟨head, []⟩]
  | ⟨head, next :: rest⟩ => token ⟨head, next :: rest⟩ :: tokens ⟨next, rest⟩
termination_by path => path.tail.length

theorem render_single (segment : Segment) : render ⟨segment, []⟩ = segment.text := by
  simp [render, segments]

theorem render_cons (head next : Segment) (rest : List Segment) :
    render ⟨head, next :: rest⟩ = head.text ++ "." ++ render ⟨next, rest⟩ :=
  String.intercalate_cons_cons

/-- A token displays the text that it is read from. -/
theorem render_token (path : Path) : path.token.render = path.render := by
  obtain ⟨head, tail⟩ := path
  cases tail with
  | nil => exact (render_single head).symm
  | cons next rest => exact (render_cons head next rest).symm

/-- Each token leaves the text that the next one is read from. -/
theorem isChain_tokens (path : Path) :
    path.tokens.head?.map Token.render = some path.render ∧
      List.IsChain (fun token next => token.remainder? = some next.render) path.tokens := by
  obtain ⟨head, tail⟩ := path
  -- the text of the rest is what remains of the first token
  induction tail generalizing head with
  | nil =>
    rw [tokens]
    exact ⟨congrArg some (render_token _), .singleton _⟩
  | cons next rest ih =>
    rw [tokens]
    obtain ⟨hHead, hRest⟩ := ih next
    refine ⟨congrArg some (render_token _), List.isChain_cons.mpr ⟨fun after hAfter => ?_, hRest⟩⟩
    -- the next token displays what remained
    have hRender : after.render = render ⟨next, rest⟩ := by
      rw [Option.mem_def.mp hAfter] at hHead
      exact Option.some.inj hHead
    rw [hRender]
    rfl

/-- The tokens of a path are its segments. -/
theorem map_tokens (path : Path) :
    path.tokens.map (fun token => (token.name, token.indexedName, token.index?)) =
      path.segments.map fun segment => (segment.name, segment.text, segment.index?) := by
  obtain ⟨head, tail⟩ := path
  induction tail generalizing head with
  | nil => rw [tokens]; rfl
  | cons next rest ih =>
    rw [tokens, List.map_cons, ih next]
    rfl

/-! ### Texts -/

/-- A text is cut as often as it has dots. -/
theorem length_cutAtDots (text : List Char) :
    (cutAtDots text).2.length = text.count '.' := by
  induction text with
  | nil => rfl
  | cons c text ih =>
    rw [cutAtDots_cons]
    by_cases hDot : c = '.'
    · subst hDot
      simp [ih]
    · -- another character makes the piece longer, and cuts nothing
      rw [if_neg hDot, List.count_cons_of_ne hDot]
      exact ih

/-- A path has one segment more than its text has dots. -/
theorem length_segments_parse (text : String) :
    (parse text).segments.length = text.toList.count '.' + 1 := by
  show ((cutAtDots text.toList).2.map _).length + 1 = _
  rw [List.length_map, length_cutAtDots]

/-- The pieces of a text, joined by dots again. -/
theorem intercalate_cutAtDots (text : List Char) :
    ['.'].intercalate ((cutAtDots text).1 :: (cutAtDots text).2) = text := by
  induction text with
  | nil => rfl
  | cons c text ih =>
    rw [cutAtDots_cons]
    by_cases hDot : c = '.'
    · rw [if_pos hDot, List.intercalate_cons_cons, ih, hDot]
      rfl
    · -- the character belongs to the first piece, whether or not there are others
      rw [if_neg hDot]
      cases hOthers : (cutAtDots text).2 with
      | nil =>
        rw [hOthers] at ih
        simpa using ih
      | cons next rest =>
        rw [hOthers, List.intercalate_cons_cons] at ih
        rw [List.intercalate_cons_cons]
        simpa using ih

/-- **Nothing of a text is lost when it is cut.** -/
theorem render_parse (text : String) : (parse text).render = text := by
  -- texts are compared by their characters
  rw [← String.toList_inj]
  unfold render
  rw [String.toList_intercalate]
  have hPieces : ((parse text).segments.map Segment.text).map String.toList =
      (cutAtDots text.toList).1 :: (cutAtDots text.toList).2 := by
    simp [parse, segments, Function.comp_def]
  rw [hPieces]
  exact intercalate_cutAtDots text.toList

end Path

/-! ## Reading -/

namespace Token

/-- What is read of a text is the first token of its path. -/
theorem read?_render {path : Path} (hCut : path.IsCut) : read? path.render = some path.token := by
  -- the first segment ends at the first dot, or where the text ends
  have hFirst : cutFirst? path.render.toList =
      some (path.head.text.toList, (path.next?.map Path.render).map String.toList) := by
    obtain ⟨head, tail⟩ := path
    have hDots : '.' ∉ head.text.toList := hCut head List.mem_cons_self
    cases tail with
    | nil =>
      rw [Path.render_single, cutFirst?_of_notMem hDots]
      rfl
    | cons next rest =>
      rw [Path.render_cons, String.toList_append, String.toList_append, List.append_assoc]
      exact cutFirst?_append_dot hDots _
  unfold read?
  rw [hFirst]
  -- it is then cut into name and index
  show (cutIndex? path.head.text.toList).bind _ = _
  rw [cutIndex?_eq, Option.bind_some]
  simp [Path.token, Function.comp_def]

/-- **A text is read as the tokens of its path.** -/
theorem readAll?_render {path : Path} (hCut : path.IsCut) :
    readAll? path.render = some path.tokens := by
  obtain ⟨head, tail⟩ := path
  induction tail generalizing head with
  | nil =>
    rw [readAll?, read?_render hCut, Path.tokens]
    rfl
  | cons next rest ih =>
    -- what remains is read in the same way
    have hRest : Path.IsCut ⟨next, rest⟩ := (List.forall_mem_cons.mp hCut).2
    rw [readAll?, read?_render hCut, Path.tokens]
    show (readAll? (Path.render ⟨next, rest⟩)).map _ = _
    rw [ih next hRest]
    rfl

/-- What holds of the segments of a path holds of its tokens. -/
theorem forall_mem_tokens {path : Path} {p : String × String × Option String → Prop}
    (hSegments : ∀ segment ∈ path.segments, p (segment.name, segment.text, segment.index?)) :
    ∀ token ∈ path.tokens, p (token.name, token.indexedName, token.index?) := by
  intro token hToken
  have hMember : (token.name, token.indexedName, token.index?) ∈
      path.segments.map fun segment => (segment.name, segment.text, segment.index?) := by
    -- without what remains, tokens and segments are the same triples
    rw [← Path.map_tokens]
    exact List.mem_map_of_mem hToken
  obtain ⟨segment, hSegment, hSame⟩ := List.mem_map.mp hMember
  rw [← hSame]
  exact hSegments segment hSegment

end Token

/-- A segment has an index when it has a bracket. -/
theorem Segment.isSome_index?_iff (segment : Segment) :
    segment.index?.isSome = true ↔ '[' ∈ segment.text.toList := by
  by_cases hBracket : '[' ∈ segment.text.toList
  · obtain ⟨before, afterBracket, hText, hBefore⟩ := List.eq_append_cons_of_mem hBracket
    rw [index?_of_bracket hText hBefore]
    simp [hBracket]
  · rw [index?_of_notMem hBracket]
    simp [hBracket]

/-- A name with an index is a segment of a path, if neither has a dot in it. -/
theorem Segment.dot_notMem_ofNameIndex {name : String} {index? : Option String}
    (hName : '.' ∉ name.toList) (hIndex : ∀ index ∈ index?, '.' ∉ index.toList) :
    '.' ∉ (ofNameIndex name index?).text.toList := by
  cases index? with
  | none =>
    rw [toList_ofNameIndex_none]
    exact hName
  | some index =>
    have hInner := hIndex index rfl
    rw [toList_ofNameIndex_some]
    simp [hName, hInner]

namespace Token

/-- A text that is put together from names and indexes is read as these. -/
theorem readAll?_of_parts {parts : List (String × Option String)} (hSome : parts ≠ [])
    (hParts : ∀ part ∈ parts, '.' ∉ part.1.toList ∧ '[' ∉ part.1.toList ∧
      ∀ index ∈ part.2, '.' ∉ index.toList) :
    ∃ tokens,
      readAll? (".".intercalate (parts.map fun part => (Segment.ofNameIndex part.1 part.2).text)) =
        some tokens ∧ tokens.map (fun token => (token.name, token.index?)) = parts := by
  obtain ⟨first, rest, rfl⟩ := List.exists_cons_of_ne_nil hSome
  let path : Path := ⟨Segment.ofNameIndex first.1 first.2,
    rest.map fun part => Segment.ofNameIndex part.1 part.2⟩
  -- the parts make a path, and its segments have no dots
  have hSegments : path.segments =
      (first :: rest).map fun part => Segment.ofNameIndex part.1 part.2 := rfl
  have hCut : path.IsCut := by
    intro segment hSegment
    rw [hSegments] at hSegment
    obtain ⟨part, hPart, rfl⟩ := List.mem_map.mp hSegment
    obtain ⟨hName, -, hIndex⟩ := hParts part hPart
    exact Segment.dot_notMem_ofNameIndex hName hIndex
  refine ⟨path.tokens, ?_, ?_⟩
  · -- its text is the one that the parts make
    rw [← readAll?_render hCut, Path.render, hSegments, List.map_map]
    rfl
  · -- its tokens are the names and indexes of the parts
    have hBoth : path.tokens.map (fun token => (token.name, token.index?)) =
        path.segments.map fun segment => (segment.name, segment.index?) := by
      have hAll := congrArg (List.map fun fields => (fields.1, fields.2.2)) (Path.map_tokens path)
      simpa only [List.map_map, Function.comp_def] using hAll
    rw [hBoth, hSegments, List.map_map]
    -- each part is read back from its segment
    refine (List.map_congr_left fun part hPart => ?_).trans (List.map_id _)
    obtain ⟨-, hBracket, -⟩ := hParts part hPart
    simp [hBracket]

/-- **Tokens lose nothing of a text, and give back what it was put together from.** Reading never
cuts outside a text or inside a character, and a token displays the text that it was read from. A
text has one token more than it has dots; joined by dots, their texts are the text again; none of
them has a dot; the name is what stands before the first bracket, and there is an index if there is
a bracket. These are the segments of the path that the text spells. A text put together from names
without dots and brackets, with indexes without dots, is read as these names and indexes. -/
theorem path_tokens_exact :
    (∀ text, ∃ token, read? text = some token ∧ token.render = text) ∧
      (∀ text, ∃ tokens, readAll? text = some tokens ∧
        tokens.length = text.toList.count '.' + 1 ∧
        ".".intercalate (tokens.map indexedName) = text ∧
        (∀ token ∈ tokens, '.' ∉ token.indexedName.toList ∧
          token.name.toList = token.indexedName.toList.takeWhile (· != '[') ∧
          (token.index?.isSome = true ↔ '[' ∈ token.indexedName.toList)) ∧
        tokens.head?.map render = some text ∧
        List.IsChain (fun token next => token.remainder? = some next.render) tokens ∧
        tokens.map (fun token => (token.name, token.indexedName, token.index?)) =
          (Path.parse text).segments.map fun segment =>
            (segment.name, segment.text, segment.index?)) ∧
      ∀ parts : List (String × Option String), parts ≠ [] →
        (∀ part ∈ parts, '.' ∉ part.1.toList ∧ '[' ∉ part.1.toList ∧
          ∀ index ∈ part.2, '.' ∉ index.toList) →
        ∃ tokens, readAll? (".".intercalate
            (parts.map fun part => (Segment.ofNameIndex part.1 part.2).text)) = some tokens ∧
          tokens.map (fun token => (token.name, token.index?)) = parts := by
  refine ⟨fun text => ?_, fun text => ?_, fun _ => readAll?_of_parts⟩
  · -- the first token
    have hRead := read?_render (Path.isCut_parse text)
    rw [Path.render_parse] at hRead
    exact ⟨_, hRead, (Path.render_token _).trans (Path.render_parse text)⟩
  · -- all tokens
    have hRead := readAll?_render (Path.isCut_parse text)
    rw [Path.render_parse] at hRead
    have hTokens := Path.map_tokens (Path.parse text)
    have hTexts : (Path.parse text).tokens.map indexedName =
        (Path.parse text).segments.map Segment.text := by
      have hAll := congrArg (List.map fun fields => fields.2.1) hTokens
      simpa only [List.map_map, Function.comp_def] using hAll
    obtain ⟨hHead, hChain⟩ := Path.isChain_tokens (Path.parse text)
    rw [Path.render_parse] at hHead
    refine ⟨_, hRead, ?_, ?_, ?_, hHead, hChain, hTokens⟩
    · -- one more than there are dots
      rw [← List.length_map indexedName, hTexts, List.length_map, Path.length_segments_parse]
    · -- nothing is lost
      rw [hTexts]
      exact Path.render_parse text
    · -- each token for itself
      refine forall_mem_tokens (p := fun fields => '.' ∉ fields.2.1.toList ∧
        fields.1.toList = fields.2.1.toList.takeWhile (· != '[') ∧
        (fields.2.2.isSome = true ↔ '[' ∈ fields.2.1.toList)) fun segment hSegment => ?_
      exact ⟨Path.isCut_parse text segment hSegment, String.toList_ofList,
        segment.isSome_index?_iff⟩

/-- Characters of several bytes, a bracket inside an index and an empty index do no harm. -/
theorem path_tokens_exact_wide :
    ∃ tokens, readAll? "größe[é[].名前.x[]" = some tokens ∧
      tokens.map (fun token => (token.name, token.index?)) =
        [("größe", some "é["), ("名前", none), ("x", some "")] :=
  path_tokens_exact.2.2 [("größe", some "é["), ("名前", none), ("x", some "")] (by decide) (by decide)

end Token

end Introspect
