import Mathlib.Data.List.Basic
import Brace.Text.Lines

namespace Brace.Text.Lines

/-!
# Cutting what was joined

Lines that are joined by line feeds are the lines into which a file is cut, but for an empty last
line; lines that are joined by the two characters `\n` are those into which inline source is cut.
Typed input is cut like a file, although it is cut before its bytes are decoded.
-/

/-! ## Line feeds -/

section

variable [DecidableEq α] {ret feed : α}

/-- A feed ends the line, whatever comes after it. -/
theorem cut_feed
    (line rest : List α) :
    cut ret feed line (feed :: rest) = line.reverse :: cut ret feed [] rest := by
  cases rest <;> simp [cut]

/-- A feed ends the line together with a `ret` before it. -/
theorem cut_ret_feed
    (different : ret ≠ feed)
    (line rest : List α) :
    cut ret feed line (ret :: feed :: rest) = line.reverse :: cut ret feed [] rest := by
  simp [cut, different]

/-- Without a feed everything goes to the line, if the last of it is no part of a line end. -/
theorem cut_append
    {line text rest : List α}
    (solid : feed ∉ text)
    (bare : text.getLast? = some ret → rest.head? ≠ some feed)
    (goesOn : rest ≠ []) :
    cut ret feed line (text ++ rest) = cut ret feed (text.reverse ++ line) rest := by
  induction text generalizing line with
  | nil => rfl
  | cons c text inductionHypothesis =>
      rw [List.mem_cons, not_or] at solid
      obtain ⟨noFeed, solid⟩ := solid
      have kept : ¬ (c = ret ∧ (text ++ rest).head? = some feed) := by
        rintro ⟨rfl, next⟩
        cases text with
        | nil => exact bare rfl next
        | cons d text => exact solid (by simpa [eq_comm] using Or.inl (Option.some.inj next))
      have others : cut ret feed (c :: line) (text ++ rest) = _ :=
        inductionHypothesis solid fun last => bare (by simp [List.getLast?_cons, last])
      rw [List.reverse_cons, List.append_assoc, List.singleton_append, ← others]
      obtain ⟨next, after, shape⟩ :=
        List.exists_cons_of_ne_nil (List.append_ne_nil_of_right_ne_nil text goesOn)
      rw [shape, List.head?_cons, Option.some_inj] at kept
      rw [List.cons_append, shape, cut, if_neg (Ne.symm noFeed), if_neg kept]

/-- What comes after the last feed is a line, unless it is empty. -/
theorem cut_of_solid
    {line text : List α}
    (solid : feed ∉ text)
    (nonempty : text ≠ []) :
    cut ret feed line text = [line.reverse ++ text] := by
  rcases List.eq_nil_or_concat text with rfl | ⟨front, last, rfl⟩
  · contradiction
  · rw [List.concat_eq_append] at solid ⊢
    rw [List.mem_append, List.mem_singleton, not_or] at solid
    have noFeed : last ≠ feed := Ne.symm solid.2
    have single : [last].head? ≠ some feed := by
      simpa using noFeed
    rw [cut_append solid.1 (fun _ => single) (List.cons_ne_nil last []), cut, if_neg noFeed]
    simp

/-- Lines that are joined by feeds are cut apart again, but for an empty last line. -/
theorem cut_intercalate
    {pieces : List (List α)}
    {last : List α}
    (solid : ∀ piece ∈ pieces ++ [last], feed ∉ piece)
    (bare : ∀ piece ∈ pieces, piece.getLast? ≠ some ret) :
    cut ret feed [] ([feed].intercalate (pieces ++ [last])) =
      pieces ++ if last = [] then [] else [last] := by
  induction pieces with
  | nil =>
      rw [List.nil_append, List.intercalate_singleton]
      split
      · rename_i empty
        subst empty
        rfl
      · rename_i nonempty
        exact cut_of_solid (solid last (by simp)) nonempty
  | cons piece pieces inductionHypothesis =>
      rw [List.cons_append, List.forall_mem_cons] at solid
      rw [List.forall_mem_cons] at bare
      have joined :
          [feed].intercalate (piece :: pieces ++ [last]) =
            piece ++ feed :: [feed].intercalate (pieces ++ [last]) := by
        rw [List.cons_append, List.intercalate_cons_of_ne_nil (by simp), List.append_assoc]
        rfl
      rw [joined,
        cut_append solid.1 (fun isRet => absurd isRet bare.1) (List.cons_ne_nil _ _), cut_feed,
        inductionHypothesis solid.2 bare.2]
      simp

variable [DecidableEq β] {encode : α → List β} {codedRet codedFeed : β}

/-- An encoded text is cut like the text if no other element is encoded with what ends a line. -/
theorem cut_flatMap
    (different : ret ≠ feed)
    (nonempty : ∀ c, encode c ≠ [])
    (rets : encode ret = [codedRet])
    (feeds : encode feed = [codedFeed])
    (otherRet : ∀ c, codedRet ∈ encode c → c = ret)
    (otherFeed : ∀ c, codedFeed ∈ encode c → c = feed)
    (line text : List α) :
    cut codedRet codedFeed (line.reverse.flatMap encode).reverse (text.flatMap encode) =
      (cut ret feed line text).map (List.flatMap encode) := by
  have unended : ∀ {c}, c ≠ feed → codedFeed ∉ encode c :=
    fun other isIn => other (otherFeed _ isIn)
  fun_induction cut ret feed line text with
  | case1 line empty =>
      rw [List.isEmpty_iff.mp empty]
      rfl
  | case2 line filled =>
      have coded : line.reverse.flatMap encode ≠ [] := by
        simp only [List.isEmpty_iff] at filled
        obtain ⟨c, member⟩ := List.exists_mem_of_ne_nil line filled
        intro empty
        exact nonempty c (List.flatMap_eq_nil_iff.mp empty c (List.mem_reverse.mpr member))
      simp [cut, coded]
  | case3 line =>
      rw [List.flatMap_singleton, feeds, cut_feed]
      simp [cut]
  | case4 line c noFeed =>
      rw [List.flatMap_singleton, cut_of_solid (unended noFeed) (nonempty c)]
      simp
  | case5 line next rest inductionHypothesis =>
      rw [List.flatMap_cons, feeds, List.singleton_append, cut_feed]
      simpa using inductionHypothesis
  | case6 line c next rest noFeed ends inductionHypothesis =>
      obtain ⟨rfl, rfl⟩ := ends
      have codes : codedRet ≠ codedFeed := by
        rintro rfl
        exact different (otherFeed c (by simp [rets]))
      rw [List.flatMap_cons, List.flatMap_cons, rets, feeds, List.singleton_append,
        List.singleton_append, cut_ret_feed codes]
      simpa using inductionHypothesis
  | case7 line c next rest noFeed goesOn inductionHypothesis =>
      have bare :
          (encode c).getLast? = some codedRet →
            ((next :: rest).flatMap encode).head? ≠ some codedFeed := by
        intro isRet isFeed
        rw [List.flatMap_cons, List.head?_append_of_ne_nil _ (nonempty next)] at isFeed
        exact
          goesOn
            ⟨otherRet c (List.mem_of_getLast? isRet), otherFeed next (List.mem_of_head? isFeed)⟩
      have filled : (next :: rest).flatMap encode ≠ [] := by
        simp [nonempty next]
      rw [List.flatMap_cons, cut_append (unended noFeed) bare filled, ← inductionHypothesis]
      simp

end

/-! ## Files -/

/-- Lines that are joined by line feeds are those of a file, but for an empty last line. -/
theorem ofFile_intercalate
    {lines : List String}
    {last : String}
    (solid : ∀ line ∈ lines ++ [last], '\n' ∉ line.toList)
    (bare : ∀ line ∈ lines, line.toList.getLast? ≠ some '\r') :
    ofFile ("\n".intercalate (lines ++ [last])) = lines ++ if last = "" then [] else [last] := by
  have joined :=
    @cut_intercalate _ _ '\r' '\n' (lines.map String.toList) last.toList
      (by simpa [or_imp, forall_and] using solid) (by simpa using bare)
  have empty : (last.toList = []) = (last = "") := by
    simp
  have chars : (lines ++ [last]).map String.toList = lines.map String.toList ++ [last.toList] := by
    simp
  rw [ofFile, String.toList_intercalate, chars]
  change (cut '\r' '\n' [] (['\n'].intercalate _)).map _ = _
  rw [joined]
  simp only [empty]
  split <;> simp [Function.comp_def]

/-! ## Typed input -/

/-- A byte of an encoded character that could be a character of its own is this character. -/
theorem toNat_of_mem_utf8EncodeChar
    {c : Char}
    {byte : UInt8}
    (member : byte ∈ String.utf8EncodeChar c)
    (single : byte.toNat < 0x80) :
    c.toNat = byte.toNat := by
  unfold String.utf8EncodeChar at member
  dsimp only at member
  split at member
  · rw [List.mem_singleton.mp member, UInt8.toNat_ofNat']
    change c.val.toNat = _
    omega
  · exfalso
    split at member
    · simp only [List.mem_cons, List.not_mem_nil, or_false] at member
      rcases member with rfl | rfl <;> simp only [UInt8.toNat_ofNat'] at single <;> omega
    · split at member
      · simp only [List.mem_cons, List.not_mem_nil, or_false] at member
        rcases member with rfl | rfl | rfl <;> simp only [UInt8.toNat_ofNat'] at single <;> omega
      · simp only [List.mem_cons, List.not_mem_nil, or_false] at member
        rcases member with rfl | rfl | rfl | rfl <;> simp only [UInt8.toNat_ofNat'] at single <;>
          omega

/-- The bytes of a text are those of its characters. -/
theorem toList_toUTF8
    (text : String) :
    text.toUTF8.data.toList = text.toList.flatMap String.utf8EncodeChar := by
  rw [String.toUTF8_eq_toByteArray, ← String.utf8Encode_toList, List.utf8Encode]
  simp

theorem toUTF8_ofList
    (text : List Char) :
    (String.ofList text).toUTF8 = ⟨(text.flatMap String.utf8EncodeChar).toArray⟩ := by
  rw [String.toUTF8_eq_toByteArray, String.toByteArray_ofList, List.utf8Encode]
  exact ByteArray.ext List.data_toByteArray

/-- Typed input has the lines of a file with the same text. -/
theorem ofInput_toUTF8
    (text : String) :
    ofInput text.toUTF8 = (ofFile text).map String.toUTF8 := by
  have code : ∀ {c : Char} {byte : UInt8}, byte ∈ String.utf8EncodeChar c →
      byte.toNat < 0x80 → ∀ mark : Char, mark.toNat = byte.toNat → c = mark := by
    intro c byte member single mark isMark
    exact
      Char.ext
        (UInt32.toNat_inj.mp ((toNat_of_mem_utf8EncodeChar member single).trans isMark.symm))
  have same :=
    @cut_flatMap _ _ _ '\r' '\n' _ String.utf8EncodeChar 13 10 (by decide)
      (fun _ => String.utf8EncodeChar_ne_nil) (by decide) (by decide)
      (fun c member => code member (by decide) '\r' rfl)
      (fun c member => code member (by decide) '\n' rfl)
      [] text.toList
  simp only [List.reverse_nil, List.flatMap_nil] at same
  rw [ofInput, toList_toUTF8, same, ofFile, List.map_map, List.map_map]
  refine List.map_congr_left ?_
  intro line _
  exact (toUTF8_ofList line).symm

/-! ## Inline source -/

/-- What separates the lines of inline source. -/
def separator : List Char :=
  ['\\', 'n']

theorem cutInline_cons
    {line : String}
    {c : Char}
    {rest : List Char}
    (kept : c = '\\' → rest.head? ≠ some 'n') :
    cutInline line (c :: rest) = cutInline (line.push c) rest := by
  cases rest with
  | nil => rfl
  | cons next rest => exact if_neg fun ends => kept ends.1 (congrArg some ends.2)

/-- Without a separator all characters go to the line. -/
theorem cutInline_append
    {line : String}
    {text rest : List Char}
    (solid : ¬ separator <:+: text)
    (bare : text.getLast? = some '\\' → rest.head? ≠ some 'n') :
    cutInline line (text ++ rest) = cutInline (line ++ String.ofList text) rest := by
  induction text generalizing line with
  | nil => simp
  | cons c text inductionHypothesis =>
      have kept : c = '\\' → (text ++ rest).head? ≠ some 'n' := by
        rintro rfl isLetter
        cases text with
        | nil => exact bare rfl isLetter
        | cons next text =>
            cases isLetter
            exact solid ⟨[], text, rfl⟩
      have others : cutInline (line.push c) (text ++ rest) = _ :=
        inductionHypothesis (fun inside => solid (inside.trans (List.suffix_cons c text).isInfix))
          fun last => bare (by simp [List.getLast?_cons, last])
      rw [List.cons_append, cutInline_cons kept, others]
      congr 1
      apply String.toList_injective
      simp

/-- Lines that are joined by separators are those of inline source. -/
theorem ofInline_intercalate
    {lines : List String}
    (nonempty : lines ≠ [])
    (solid : ∀ line ∈ lines, ¬ separator <:+: line.toList) :
    ofInline ("\\n".intercalate lines) = lines := by
  unfold ofInline
  induction lines with
  | nil => contradiction
  | cons line lines inductionHypothesis =>
      rw [List.forall_mem_cons] at solid
      cases lines with
      | nil =>
          have whole := @cutInline_append "" line.toList [] solid.1 fun _ => nofun
          simpa [cutInline] using whole
      | cons next lines =>
          have others := inductionHypothesis (List.cons_ne_nil next lines) solid.2
          have joined :
              ("\\n".intercalate (line :: next :: lines)).toList =
                line.toList ++
                  ('\\' :: 'n' :: ("\\n".intercalate (next :: lines)).toList) := by
            rw [String.intercalate_cons_cons]
            simp
          rw [joined, cutInline_append solid.1 fun _ => by simp]
          simpa [cutInline] using others

end Brace.Text.Lines
