import ThingLink.Json.Tree

/-!
# Quoted strings read back

What `quote` writes is a whole string: the scanner stops at its closing mark, whatever
follows, and the pieces that it has taken are decoded to the text that was written.
-/

namespace ThingLink.Json

open Text (paddedHex hexValue? hexValue?_digitChar)

/-! ## The rules of the scanner -/

section Rules

variable {c e : Char} {more : List Char}

theorem scanString_plain (mark : c ≠ '"') (backslash : c ≠ '\\') (printed : ¬c < ' ') :
    scanString (c :: more) = ((scanString more).1.cons (.char c), (scanString more).2) := by
  rw [scanString]
  · rw [if_neg printed]
  · exact mark
  · exact fun same => absurd same backslash
  · exact fun _ _ _ _ _ same => absurd same backslash
  · exact fun _ same => absurd same backslash
  · exact fun _ _ same => absurd same backslash

theorem scanString_short (shortcut : unescape? e = some c) :
    scanString ('\\' :: e :: more) = ((scanString more).1.cons (.char c), (scanString more).2) := by
  have plain : e ≠ 'u' := by
    rintro rfl
    exact nomatch shortcut
  rw [scanString]
  · simp only [shortcut]
  · exact fun _ _ _ _ _ same => absurd same plain
  · exact fun same => absurd same plain

theorem scanString_unit {x y z w : Char} {n : Nat} (value : fourDigits? x y z w = some n) :
    scanString ('\\' :: 'u' :: x :: y :: z :: w :: more)
      = ((scanString more).1.cons (.unit n), (scanString more).2) := by
  rw [scanString]
  simp only [value]

theorem decodePieces_unit {n : Nat} (plane : n < 0xD800) (pieces : List Piece) :
    decodePieces none (.unit n :: pieces)
      = (decodePieces none pieces).map (Char.ofNat n :: ·) := by
  have leading : isLeading n = false := by
    simp only [isLeading, Bool.and_eq_false_iff, decide_eq_false_iff_not]
    omega
  have trailing : isTrailing n = false := by
    simp only [isTrailing, Bool.and_eq_false_iff, decide_eq_false_iff_not]
    omega
  rw [decodePieces.eq_def]
  simp only [leading, trailing, Bool.false_eq_true, if_false]

end Rules

/-! ## What is written -/

theorem fourDigits?_paddedHex {n : Nat} (fits : n < 0x10000) :
    ∃ x y z w, (paddedHex 4 n).toList = [x, y, z, w] ∧ fourDigits? x y z w = some n := by
  have digit (k : Nat) : hexValue? (Nat.digitChar (k % 16)) = some (k % 16) :=
    hexValue?_digitChar (Nat.mod_lt k (by decide))
  refine ⟨_, _, _, _, String.toList_ofList, ?_⟩
  simp only [fourDigits?, digit, bind, pure, Option.bind]
  congr 1
  omega

/-- Scanning a character that was written takes one piece, and this piece is decoded to the
character. -/
theorem exists_piece (c : Char) :
    ∃ p, (∀ more, scanString (escaped c ++ more)
          = ((scanString more).1.cons p, (scanString more).2))
      ∧ ∀ pieces, decodePieces none (p :: pieces) = (decodePieces none pieces).map (c :: ·) := by
  -- seven characters have a short form; the others are written as they are if they are printed
  unfold escaped
  split
  · exact ⟨_, fun _ => scanString_short rfl, fun _ => rfl⟩
  · exact ⟨_, fun _ => scanString_short rfl, fun _ => rfl⟩
  · exact ⟨_, fun _ => scanString_short rfl, fun _ => rfl⟩
  · exact ⟨_, fun _ => scanString_short rfl, fun _ => rfl⟩
  · exact ⟨_, fun _ => scanString_short rfl, fun _ => rfl⟩
  · exact ⟨_, fun _ => scanString_short rfl, fun _ => rfl⟩
  · exact ⟨_, fun _ => scanString_short rfl, fun _ => rfl⟩
  · next _ mark backslash _ _ _ _ _ =>
    split
    · next control =>
      have small : c.toNat < 0x20 := control
      obtain ⟨x, y, z, w, digits, value⟩ := fourDigits?_paddedHex (n := c.toNat) (by omega)
      rw [digits]
      refine ⟨_, fun more => scanString_unit value, fun pieces => ?_⟩
      rw [decodePieces_unit (by omega), Char.ofNat_toNat]
    · next printed =>
      exact ⟨_, fun more => scanString_plain mark backslash printed, fun _ => rfl⟩

theorem scanString_escaped (cs rest : List Char) :
    ∃ pieces, scanString (cs.flatMap escaped ++ '"' :: rest) = (⟨pieces, none⟩, rest)
      ∧ decodePieces none pieces = .ok cs := by
  induction cs with
  | nil => exact ⟨[], rfl, rfl⟩
  | cons c cs inductionHypothesis =>
    obtain ⟨pieces, scanned, decoded⟩ := inductionHypothesis
    obtain ⟨p, taken, meant⟩ := exists_piece c
    refine ⟨p :: pieces, ?_, ?_⟩
    · rw [List.flatMap_cons, List.append_assoc, taken, scanned]
      rfl
    · rw [meant, decoded]
      rfl

/-- A written string, behind its opening mark, is taken apart up to its closing mark, and means
the text that was written. -/
theorem scanString_quote (s : String) (rest : List Char) :
    ∃ t, scanString (s.toList.flatMap escaped ++ '"' :: rest) = (t, rest) ∧ t.decode = .ok s := by
  obtain ⟨pieces, scanned, decoded⟩ := scanString_escaped s.toList rest
  refine ⟨⟨pieces, none⟩, scanned, ?_⟩
  rw [StringText.decode, decoded]
  exact congrArg Except.ok String.ofList_toList

/-! ## Strings in a text -/

theorem quote_toList (s : String) :
    (quote s).toList = '"' :: (s.toList.flatMap escaped ++ ['"']) :=
  String.toList_ofList

theorem skipSpace_append {gap : List Char} (blank : gap.all isSpace) (cs : List Char) :
    skipSpace (gap ++ cs) = skipSpace cs :=
  List.dropWhile_append_of_pos (List.all_eq_true.mp blank)

theorem skipSpace_cons {c : Char} (dark : isSpace c = false) (cs : List Char) :
    skipSpace (c :: cs) = c :: cs :=
  List.dropWhile_cons_of_neg (by simp [dark])

theorem scanTree_gap {gap : List Char} (blank : gap.all isSpace) (fuel : Nat) (cs : List Char) :
    scanTree fuel (gap ++ cs) = scanTree fuel cs := by
  cases fuel with
  | zero => rfl
  | succ fuel => rw [scanTree, scanTree, skipSpace_append blank]

theorem scanTree_quote (fuel : Nat) (s : String) (rest : List Char) :
    ∃ t, scanTree (fuel + 1) ((quote s).toList ++ rest) = (.text t, rest) ∧ t.decode = .ok s := by
  obtain ⟨t, scanned, decoded⟩ := scanString_quote s rest
  refine ⟨t, ?_, decoded⟩
  rw [quote_toList, List.cons_append, List.append_assoc, scanTree, skipSpace_cons rfl]
  simp only [List.singleton_append, scanned]

end ThingLink.Json
