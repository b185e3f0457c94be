/-
**Bytes and the text that they encode.**

A text is read back from its own bytes.  Of any other bytes this much can be said: a byte below 128
is a character of its own, wherever it stands, and no other byte is read as such a character.  So
bytes fall apart before every byte of this kind, and what is read from one part does not depend on
the other, however badly the parts are encoded.

Main definitions:

* `Toolpath.Text.Utf8.Reads` — the ways in which a character is read.

Main results:

* `Toolpath.Text.Utf8.decode_encode` — **a text is read back from its bytes**;
* `Toolpath.Text.Utf8.reads_readCharacter` — the first byte and those that belong to it are read in
  one of the listed ways;
* `Toolpath.Text.Utf8.decode_append` — **bytes fall apart before a byte below 128**;
* `Toolpath.Text.Utf8.mem_of_mem_decode` — a character below 128 has its own byte.
-/

import Toolpath.Text.Utf8

set_option relaxedAutoImplicit false
set_option autoImplicit false

namespace Toolpath.Text.Utf8

/-! ### Bytes after the first one -/

/-- The bounds of the byte after a first byte that three bytes in all begin with. -/
theorem continuation?_three {first : Nat} (hlow : 0xe0 ≤ first) (hhigh : first ≤ 0xef) :
    continuation? first = some ⟨2, if first = 0xe0 then 0xa0 else leastFollowing,
      if first = 0xed then 0x9f else greatestFollowing⟩ := by
  unfold continuation?
  rw [if_neg (by omega), if_neg (by omega)]
  by_cases hleast : first = 0xe0
  · rw [if_pos hleast, if_pos hleast, if_neg (by omega)]
  · rw [if_neg hleast, if_neg hleast]
    by_cases hsurrogate : first = 0xed
    · rw [if_pos hsurrogate, if_pos hsurrogate]
    · rw [if_neg hsurrogate, if_neg hsurrogate, if_pos hhigh]

/-- The bounds of the byte after a first byte that four bytes in all begin with. -/
theorem continuation?_four {first : Nat} (hlow : 0xf0 ≤ first) (hhigh : first ≤ 0xf4) :
    continuation? first = some ⟨3, if first = 0xf0 then 0x90 else leastFollowing,
      if first = 0xf4 then 0x8f else greatestFollowing⟩ := by
  unfold continuation?
  rw [if_neg (by omega), if_neg (by omega), if_neg (by omega), if_neg (by omega),
    if_neg (by omega)]
  by_cases hleast : first = 0xf0
  · rw [if_pos hleast, if_pos hleast, if_neg (by omega)]
  · rw [if_neg hleast, if_neg hleast]
    by_cases hgreatest : first = 0xf4
    · rw [if_neg (by omega), if_pos hgreatest, if_pos hgreatest]
    · rw [if_pos (by omega), if_neg hgreatest]

/-- The first bytes of encodings of several bytes: how many bytes go with them, and how the bounds
of the next one leave out overlong encodings, surrogates and what lies above the last character. -/
theorem continuation?_cases {first : Nat} {continuation : Continuation}
    (h : continuation? first = some continuation) :
    leastFollowing ≤ continuation.low ∧ continuation.high ≤ greatestFollowing ∧
      ((continuation.count = 1 ∧ 0xc2 ≤ first ∧ first ≤ 0xdf) ∨
        (continuation.count = 2 ∧ 0xe0 ≤ first ∧ first ≤ 0xef ∧
          (first = 0xe0 → 0xa0 ≤ continuation.low) ∧ (first = 0xed → continuation.high ≤ 0x9f)) ∨
        (continuation.count = 3 ∧ 0xf0 ≤ first ∧ first ≤ 0xf4 ∧
          (first = 0xf0 → 0x90 ≤ continuation.low) ∧
            (first = 0xf4 → continuation.high ≤ 0x8f))) := by
  have hleast : leastFollowing = 0x80 := rfl
  have hgreatest : greatestFollowing = 0xbf := rfl
  unfold continuation? at h
  repeat' split at h
  all_goals cases h <;> dsimp only <;> omega

@[simp] theorem following_zero (low high : Nat) (bytes : List UInt8) :
    following ⟨0, low, high⟩ bytes = [] := by
  cases bytes <;> rfl

theorem following_cons {low high : Nat} {byte : UInt8} (hlow : low ≤ byte.toNat)
    (hhigh : byte.toNat ≤ high) (count : Nat) (rest : List UInt8) :
    following ⟨count + 1, low, high⟩ (byte :: rest) =
      byte :: following ⟨count, leastFollowing, greatestFollowing⟩ rest := by
  rw [following, if_pos ⟨hlow, hhigh⟩]

theorem following_cons_eq_nil {low : Nat} {byte : UInt8} (h : byte.toNat < low)
    (count high : Nat) (rest : List UInt8) :
    following ⟨count + 1, low, high⟩ (byte :: rest) = [] := by
  rw [following, if_neg (by omega)]

/-- The bytes that continue an encoding stand where they are read. -/
theorem following_prefix (continuation : Continuation) (bytes : List UInt8) :
    following continuation bytes <+: bytes := by
  induction bytes generalizing continuation with
  | nil =>
      obtain ⟨_ | count, low, high⟩ := continuation
      · exact List.prefix_rfl
      · exact List.prefix_rfl
  | cons byte rest ih =>
      obtain ⟨_ | count, low, high⟩ := continuation
      · exact List.nil_prefix
      · rw [following]
        split
        · exact (List.prefix_cons_inj byte).2 (ih _)
        · exact List.nil_prefix

/-- The bytes that continue an encoding are not below 128. -/
theorem le_of_mem_following {low high : Nat} (count : Nat) (hlow : leastFollowing ≤ low)
    {bytes : List UInt8} {byte : UInt8} (h : byte ∈ following ⟨count, low, high⟩ bytes) :
    leastFollowing ≤ byte.toNat := by
  induction bytes generalizing count low high with
  | nil => cases count <;> cases h
  | cons first rest ih =>
      cases count with
      | zero => cases h
      | succ count =>
          rw [following] at h
          split at h
          · rename_i hfirst
            rcases List.mem_cons.1 h with rfl | h
            · exact Nat.le_trans hlow hfirst.1
            · exact ih count Nat.le.refl h
          · cases h

/-- The bytes that continue an encoding end where a byte stands that continues none. -/
theorem following_append {low high : Nat} (count : Nat) (hlow : leastFollowing ≤ low)
    (bytes : List UInt8) {after : List UInt8}
    (hafter : ∀ byte ∈ after.head?, byte.toNat < leastFollowing) :
    following ⟨count, low, high⟩ (bytes ++ after) = following ⟨count, low, high⟩ bytes := by
  induction bytes generalizing count low high with
  | nil =>
      cases count with
      | zero => rw [following_zero, following_zero]
      | succ count =>
          cases after with
          | nil => rfl
          | cons byte after =>
              exact following_cons_eq_nil (Nat.lt_of_lt_of_le (hafter byte rfl) hlow) _ _ _
  | cons byte rest ih =>
      cases count with
      | zero => rw [following_zero, following_zero]
      | succ count => rw [List.cons_append, following, following, ih count Nat.le.refl]

/-! ### Characters of several bytes -/

/-- An encoding that goes on as its first byte says is read as the character with its number. -/
theorem readCharacter_of_following {first : UInt8} {rest others : List UInt8}
    {continuation : Continuation} (hfirst : leastFollowing ≤ first.toNat)
    (hcontinuation : continuation? first.toNat = some continuation)
    (hothers : following continuation rest = others) (hcount : others.length = continuation.count) :
    readCharacter first rest =
      (Char.ofNat (characterNumber first.toNat others), others.length) := by
  unfold readCharacter
  rw [if_neg (by omega), hcontinuation]
  dsimp only
  rw [hothers, if_pos hcount]

/-- As long as bytes are missing, the next one lies between the bounds. -/
theorem exists_of_length_following {count low high : Nat} {rest : List UInt8}
    (h : (following ⟨count + 1, low, high⟩ rest).length = count + 1) :
    ∃ byte tail, low ≤ byte.toNat ∧ byte.toNat ≤ high ∧
      following ⟨count + 1, low, high⟩ rest =
        byte :: following ⟨count, leastFollowing, greatestFollowing⟩ tail ∧
      (following ⟨count, leastFollowing, greatestFollowing⟩ tail).length = count := by
  cases rest with
  | nil => cases h
  | cons byte tail =>
      by_cases hbyte : low ≤ byte.toNat ∧ byte.toNat ≤ high
      · rw [following_cons hbyte.1 hbyte.2] at h
        exact ⟨byte, tail, hbyte.1, hbyte.2, following_cons hbyte.1 hbyte.2 count tail,
          Nat.succ.inj h⟩
      · rw [following, if_neg hbyte] at h
        cases h

theorem characterNumber_one (first : Nat) (b : UInt8) :
    characterNumber first [b] = first % 32 * 64 + b.toNat % 64 := rfl

theorem characterNumber_two (first : Nat) (b c : UInt8) :
    characterNumber first [b, c] = (first % 16 * 64 + b.toNat % 64) * 64 + c.toNat % 64 := rfl

theorem characterNumber_three (first : Nat) (b c d : UInt8) :
    characterNumber first [b, c, d] =
      ((first % 8 * 64 + b.toNat % 64) * 64 + c.toNat % 64) * 64 + d.toNat % 64 := rfl

/-- The number of an encoding of several bytes is that of a character, and not below 128. -/
theorem characterNumber_following {first : Nat} {continuation : Continuation} {rest : List UInt8}
    (hcontinuation : continuation? first = some continuation)
    (hcount : (following continuation rest).length = continuation.count) :
    0x80 ≤ characterNumber first (following continuation rest) ∧
      (characterNumber first (following continuation rest)).isValidChar := by
  have hleast : leastFollowing = 0x80 := rfl
  have hgreatest : greatestFollowing = 0xbf := rfl
  obtain ⟨count, low, high⟩ := continuation
  obtain ⟨hlow, hhigh, hfirst | hfirst | hfirst⟩ := continuation?_cases hcontinuation
  all_goals
    dsimp only at hlow hhigh hfirst
    obtain ⟨rfl, hfirst⟩ := hfirst
  · obtain ⟨b, tail, hb, hb', hbytes, -⟩ := exists_of_length_following hcount
    rw [hbytes, following_zero, characterNumber_one]
    omega
  · obtain ⟨b, tail, hb, hb', hbytes, hcount⟩ := exists_of_length_following hcount
    obtain ⟨c, tail, hc, hc', hbytes', -⟩ := exists_of_length_following hcount
    rw [hbytes, hbytes', following_zero, characterNumber_two]
    omega
  · obtain ⟨b, tail, hb, hb', hbytes, hcount⟩ := exists_of_length_following hcount
    obtain ⟨c, tail, hc, hc', hbytes', hcount⟩ := exists_of_length_following hcount
    obtain ⟨d, tail, hd, hd', hbytes'', -⟩ := exists_of_length_following hcount
    rw [hbytes, hbytes', hbytes'', following_zero, characterNumber_three]
    omega

/-! ### One character -/

/-- The ways in which a first byte is read, and how many of the bytes after it belong to it. -/
inductive Reads (first : UInt8) (rest : List UInt8) : Char × Nat → Prop
  /-- A byte below 128 is a character of its own. -/
  | single (hfirst : first.toNat < leastFollowing) : Reads first rest (Char.ofNat first.toNat, 0)
  /-- Several bytes are a character, and none below 128. -/
  | several {number count : Nat} (hfirst : leastFollowing ≤ first.toNat)
      (hnumber : leastFollowing ≤ number) (hvalid : number.isValidChar)
      (hcount : count ≤ rest.length)
      (hothers : ∀ byte ∈ rest.take count, leastFollowing ≤ byte.toNat) :
      Reads first rest (Char.ofNat number, count)
  /-- The bytes are no character. -/
  | replaced {count : Nat} (hfirst : leastFollowing ≤ first.toNat) (hcount : count ≤ rest.length)
      (hothers : ∀ byte ∈ rest.take count, leastFollowing ≤ byte.toNat) :
      Reads first rest (replacement, count)

theorem reads_readCharacter (first : UInt8) (rest : List UInt8) :
    Reads first rest (readCharacter first rest) := by
  unfold readCharacter
  split
  · rename_i hfirst
    exact .single hfirst
  · rename_i hfirst
    rw [Nat.not_lt] at hfirst
    split
    · exact .replaced hfirst (Nat.zero_le _) fun byte hbyte => by cases hbyte
    · rename_i continuation hcontinuation
      have hprefix := following_prefix continuation rest
      have hothers : ∀ byte ∈ rest.take (following continuation rest).length,
          leastFollowing ≤ byte.toNat := by
        rw [← List.prefix_iff_eq_take.1 hprefix]
        exact fun byte hbyte => le_of_mem_following _ (continuation?_cases hcontinuation).1 hbyte
      dsimp only
      split
      · rename_i hall
        obtain ⟨hnumber, hvalid⟩ := characterNumber_following hcontinuation hall
        exact .several hfirst hnumber hvalid hprefix.length_le hothers
      · exact .replaced hfirst hprefix.length_le hothers

theorem toNat_ofNat {number : Nat} (h : number.isValidChar) :
    (Char.ofNat number).toNat = number := by
  rw [Char.ofNat, dif_pos h]
  rfl

/-- The bytes that belong to a first byte come after it. -/
theorem count_readCharacter_le (first : UInt8) (rest : List UInt8) :
    (readCharacter first rest).2 ≤ rest.length := by
  have h := reads_readCharacter first rest
  generalize readCharacter first rest = read at h ⊢
  cases h with
  | single => exact Nat.zero_le _
  | several _ _ _ hcount => exact hcount
  | replaced _ hcount => exact hcount

/-- They are not below 128. -/
theorem le_of_mem_take_readCharacter (first : UInt8) (rest : List UInt8) :
    ∀ byte ∈ rest.take (readCharacter first rest).2, leastFollowing ≤ byte.toNat := by
  have h := reads_readCharacter first rest
  generalize readCharacter first rest = read at h ⊢
  cases h with
  | single => exact fun byte hbyte => by cases hbyte
  | several _ _ _ _ hothers => exact hothers
  | replaced _ _ hothers => exact hothers

/-- **A character below 128 is read from its own byte only.** -/
theorem readCharacter_eq_iff {byte : UInt8} (hbyte : byte.toNat < leastFollowing) (first : UInt8)
    (rest : List UInt8) :
    (readCharacter first rest).1 = Char.ofNat byte.toNat ↔ first = byte := by
  have hleast : leastFollowing = 0x80 := rfl
  have hown : (Char.ofNat byte.toNat).toNat = byte.toNat := toNat_ofNat (Or.inl (by omega))
  have h := reads_readCharacter first rest
  generalize readCharacter first rest = read at h ⊢
  cases h with
  | single hfirst =>
      constructor
      · intro hchar
        have hnumber := congrArg Char.toNat hchar
        rw [hown, toNat_ofNat (Or.inl (by omega))] at hnumber
        exact UInt8.toNat_inj.1 hnumber
      · rintro rfl
        rfl
  | several hfirst hnumber hvalid =>
      constructor
      · intro hchar
        have hnumber := congrArg Char.toNat hchar
        rw [hown, toNat_ofNat hvalid] at hnumber
        omega
      · rintro rfl
        omega
  | replaced hfirst =>
      constructor
      · intro hchar
        have hnumber := congrArg Char.toNat hchar
        have hreplacement : replacement.toNat = 0xfffd := rfl
        rw [hown, hreplacement] at hnumber
        omega
      · rintro rfl
        omega

/-- What is read of a first byte does not depend on what follows from the next byte below 128 on. -/
theorem readCharacter_append (first : UInt8) (rest : List UInt8) {after : List UInt8}
    (hafter : ∀ byte ∈ after.head?, byte.toNat < leastFollowing) :
    readCharacter first (rest ++ after) = readCharacter first rest := by
  unfold readCharacter
  split
  · rfl
  · split
    · rfl
    · rename_i continuation hcontinuation
      rw [following_append _ (continuation?_cases hcontinuation).1 _ hafter]

/-! ### Bytes in a row -/

/-- Bytes are read a character at a time. -/
theorem bytes_induction {motive : List UInt8 → Prop} (nil : motive [])
    (cons : ∀ first rest, motive (rest.drop (readCharacter first rest).2) →
      motive (first :: rest)) :
    (bytes : List UInt8) → motive bytes
  | [] => nil
  | first :: rest => cons first rest (bytes_induction nil cons _)
termination_by bytes => bytes.length
decreasing_by
  rw [List.length_drop, List.length_cons]
  omega

/-- **Bytes fall apart before a byte below 128.** -/
theorem decode_append (front : List UInt8) {after : List UInt8}
    (hafter : ∀ byte ∈ after.head?, byte.toNat < leastFollowing) :
    decode (front ++ after) = decode front ++ decode after := by
  induction front using bytes_induction with
  | nil => rfl
  | cons first rest ih =>
      rw [List.cons_append, decode_cons, decode_cons, readCharacter_append first rest hafter,
        List.drop_append_of_le_length (count_readCharacter_le first rest), ih, List.cons_append]

/-- A byte below 128 is a character of its own. -/
theorem decode_cons_single {byte : UInt8} (hbyte : byte.toNat < leastFollowing)
    (rest : List UInt8) : decode (byte :: rest) = Char.ofNat byte.toNat :: decode rest := by
  have hread : readCharacter byte rest = (Char.ofNat byte.toNat, 0) := by
    rw [readCharacter, if_pos hbyte]
  rw [decode_cons, hread, List.drop_zero]

/-- **Bytes fall apart after a byte below 128**, too. -/
theorem decode_append_of_getLast? {front : List UInt8}
    (hfront : ∃ byte ∈ front.getLast?, byte.toNat < leastFollowing) (after : List UInt8) :
    decode (front ++ after) = decode front ++ decode after := by
  obtain ⟨byte, hlast, hbyte⟩ := hfront
  obtain ⟨before, rfl⟩ := List.getLast?_eq_some_iff.1 hlast
  have hsingle : ∀ others : List UInt8, ∀ first ∈ (byte :: others).head?,
      first.toNat < leastFollowing := fun others first hfirst => by
    rwa [← Option.some.inj hfirst]
  rw [List.append_assoc, List.singleton_append, decode_append before (hsingle after),
    decode_append before (hsingle []), decode_cons_single hbyte, decode_cons_single hbyte,
    decode_nil, List.append_assoc, List.singleton_append]

section Single

variable {byte : UInt8}

/-- **A character below 128 has its own byte.** -/
theorem mem_of_mem_decode (hbyte : byte.toNat < leastFollowing) {bytes : List UInt8}
    (h : Char.ofNat byte.toNat ∈ decode bytes) : byte ∈ bytes := by
  induction bytes using bytes_induction with
  | nil => cases h
  | cons first rest ih =>
      rw [decode_cons] at h
      rcases List.mem_cons.1 h with h | h
      · rw [(readCharacter_eq_iff hbyte first rest).1 h.symm]
        exact List.mem_cons_self
      · exact List.mem_cons_of_mem _ (List.mem_of_mem_drop (ih h))

/-- A text starts with a character below 128 exactly if its bytes start with the byte of it. -/
theorem head?_decode_eq_iff (hbyte : byte.toNat < leastFollowing) (bytes : List UInt8) :
    (decode bytes).head? = some (Char.ofNat byte.toNat) ↔ bytes.head? = some byte := by
  cases bytes with
  | nil => simp
  | cons first rest =>
      rw [decode_cons, List.head?_cons, List.head?_cons, Option.some.injEq, Option.some.injEq,
        readCharacter_eq_iff hbyte]

@[simp] theorem decode_eq_nil_iff (bytes : List UInt8) : decode bytes = [] ↔ bytes = [] := by
  cases bytes with
  | nil => simp
  | cons first rest => simp [decode_cons]

/-- A text ends with a character below 128 exactly if its bytes end with the byte of it. -/
theorem getLast?_decode_eq_iff (hbyte : byte.toNat < leastFollowing) (bytes : List UInt8) :
    (decode bytes).getLast? = some (Char.ofNat byte.toNat) ↔ bytes.getLast? = some byte := by
  constructor
  · intro h
    induction bytes using bytes_induction with
    | nil => cases h
    | cons first rest ih =>
        rw [decode_cons] at h
        by_cases hrest : rest.drop (readCharacter first rest).2 = []
        · -- the last character is read from the first byte, so that no other belongs to it
          rw [hrest, decode_nil, List.getLast?_singleton, Option.some.injEq,
            readCharacter_eq_iff hbyte] at h
          subst h
          have hread : readCharacter first rest = (Char.ofNat first.toNat, 0) := by
            rw [readCharacter, if_pos hbyte]
          rw [hread, List.drop_zero] at hrest
          rw [hrest, List.getLast?_singleton]
        · have hlast := hrest
          rw [← decode_eq_nil_iff] at hlast
          rw [List.getLast?_cons_of_ne_nil hlast] at h
          have hown := ih h
          have hlonger : ¬ rest.length ≤ (readCharacter first rest).2 := fun hle =>
            hrest (List.drop_eq_nil_iff.2 hle)
          rw [List.getLast?_drop, if_neg hlonger] at hown
          rwa [List.getLast?_cons_of_ne_nil fun hnil => hrest (by rw [hnil, List.drop_nil])]
  · intro h
    obtain ⟨front, rfl⟩ := List.getLast?_eq_some_iff.1 h
    rw [decode_append front fun first hfirst => by rwa [← Option.some.inj hfirst],
      decode_cons_single hbyte, decode_nil, List.getLast?_concat]

end Single

/-! ### The bytes of a text -/

theorem toNat_byte (number : Nat) (h : number < 256) : (UInt8.ofNat number).toNat = number :=
  UInt8.toNat_ofNat_of_lt h

/-- The bytes of one character are read as the character. -/
theorem decode_cons_several {first : UInt8} (others : List UInt8) {rest : List UInt8}
    {continuation : Continuation} (hfirst : leastFollowing ≤ first.toNat)
    (hcontinuation : continuation? first.toNat = some continuation)
    (hothers : following continuation (others ++ rest) = others)
    (hcount : others.length = continuation.count) :
    decode (first :: (others ++ rest)) =
      Char.ofNat (characterNumber first.toNat others) :: decode rest := by
  rw [decode_cons, readCharacter_of_following hfirst hcontinuation hothers hcount, List.drop_left]

theorem decode_two {number : Nat} (hlow : 0x80 ≤ number) (hhigh : number ≤ 0x7ff)
    (rest : List UInt8) :
    decode (UInt8.ofNat (number / 64 % 32 + 192) :: UInt8.ofNat (number % 64 + 128) :: rest) =
      Char.ofNat number :: decode rest := by
  have hleast : leastFollowing = 0x80 := rfl
  have hgreatest : greatestFollowing = 0xbf := rfl
  have hfirst := toNat_byte (number / 64 % 32 + 192) (by omega)
  have hb := toNat_byte (number % 64 + 128) (by omega)
  generalize UInt8.ofNat (number / 64 % 32 + 192) = first at hfirst ⊢
  generalize UInt8.ofNat (number % 64 + 128) = b at hb ⊢
  have hcontinuation :
      continuation? first.toNat = some ⟨1, leastFollowing, greatestFollowing⟩ := by
    rw [continuation?, if_neg (by omega), if_pos (by omega)]
  have hnumber : characterNumber first.toNat [b] = number := by
    rw [characterNumber_one]
    omega
  rw [← hnumber]
  refine decode_cons_several [b] (by omega) hcontinuation ?_ rfl
  rw [List.singleton_append, following_cons (by omega) (by omega), following_zero]

theorem decode_three {number : Nat} (hlow : 0x800 ≤ number) (hhigh : number ≤ 0xffff)
    (hvalid : number.isValidChar) (rest : List UInt8) :
    decode (UInt8.ofNat (number / 4096 % 16 + 224) :: UInt8.ofNat (number / 64 % 64 + 128) ::
        UInt8.ofNat (number % 64 + 128) :: rest) =
      Char.ofNat number :: decode rest := by
  have hleast : leastFollowing = 0x80 := rfl
  have hgreatest : greatestFollowing = 0xbf := rfl
  have hfirst := toNat_byte (number / 4096 % 16 + 224) (by omega)
  have hb := toNat_byte (number / 64 % 64 + 128) (by omega)
  have hc := toNat_byte (number % 64 + 128) (by omega)
  generalize UInt8.ofNat (number / 4096 % 16 + 224) = first at hfirst ⊢
  generalize UInt8.ofNat (number / 64 % 64 + 128) = b at hb ⊢
  generalize UInt8.ofNat (number % 64 + 128) = c at hc ⊢
  have hnumber : characterNumber first.toNat [b, c] = number := by
    rw [characterNumber_two]
    omega
  rw [← hnumber]
  refine decode_cons_several [b, c] (by omega)
    (continuation?_three (by omega) (by omega)) ?_ rfl
  -- the first byte e0 stands before overlong encodings, and ed before surrogates
  rw [List.cons_append, List.singleton_append, following_cons (by split <;> omega)
    (by split <;> omega), following_cons (by omega) (by omega), following_zero]

theorem decode_four {number : Nat} (hlow : 0x10000 ≤ number) (hhigh : number < 0x110000)
    (rest : List UInt8) :
    decode (UInt8.ofNat (number / 262144 % 8 + 240) :: UInt8.ofNat (number / 4096 % 64 + 128) ::
        UInt8.ofNat (number / 64 % 64 + 128) :: UInt8.ofNat (number % 64 + 128) :: rest) =
      Char.ofNat number :: decode rest := by
  have hleast : leastFollowing = 0x80 := rfl
  have hgreatest : greatestFollowing = 0xbf := rfl
  have hfirst := toNat_byte (number / 262144 % 8 + 240) (by omega)
  have hb := toNat_byte (number / 4096 % 64 + 128) (by omega)
  have hc := toNat_byte (number / 64 % 64 + 128) (by omega)
  have hd := toNat_byte (number % 64 + 128) (by omega)
  generalize UInt8.ofNat (number / 262144 % 8 + 240) = first at hfirst ⊢
  generalize UInt8.ofNat (number / 4096 % 64 + 128) = b at hb ⊢
  generalize UInt8.ofNat (number / 64 % 64 + 128) = c at hc ⊢
  generalize UInt8.ofNat (number % 64 + 128) = d at hd ⊢
  have hnumber : characterNumber first.toNat [b, c, d] = number := by
    rw [characterNumber_three]
    omega
  rw [← hnumber]
  refine decode_cons_several [b, c, d] (by omega)
    (continuation?_four (by omega) (by omega)) ?_ rfl
  -- the first byte f0 stands before overlong encodings, and f4 before what is no character
  rw [List.cons_append, List.cons_append, List.singleton_append,
    following_cons (by split <;> omega) (by split <;> omega),
    following_cons (by omega) (by omega), following_cons (by omega) (by omega), following_zero]

/-- The first character is read back from its own bytes. -/
theorem decode_encodeChar_append (c : Char) (rest : List UInt8) :
    decode (String.utf8EncodeChar c ++ rest) = c :: decode rest := by
  have hvalid : c.val.toNat.isValidChar := c.valid
  have hchar : Char.ofNat c.val.toNat = c := Char.ofNat_toNat c
  unfold String.utf8EncodeChar
  generalize c.val.toNat = number at hvalid hchar ⊢
  subst hchar
  dsimp only
  split
  · rename_i hnumber
    have hbyte : (UInt8.ofNat number).toNat = number := toNat_byte number (by omega)
    have hsingle : (UInt8.ofNat number).toNat < leastFollowing := by
      rw [hbyte]
      exact Nat.lt_succ_of_le hnumber
    rw [List.singleton_append, decode_cons_single hsingle, hbyte]
  · split
    · exact decode_two (by omega) (by omega) rest
    · split
      · exact decode_three (by omega) (by omega) hvalid rest
      · exact decode_four (by omega) (by omega) rest

/-- **A text is read back from its bytes.** -/
theorem decode_encode (text : List Char) : decode (encode text) = text := by
  induction text with
  | nil => rfl
  | cons c text ih => rw [encode, List.flatMap_cons, ← encode, decode_encodeChar_append, ih]

end Toolpath.Text.Utf8
