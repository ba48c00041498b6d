import Mathlib.Data.List.Basic
import PipeShell.Text.Utf8

/-!
# Reading back what has been written

A text is written as octets, character by character, and the decoder reads them one at a time. Here
it is shown that the decoder finds every character of every text again, without a replacement, and
that no octet of a character is taken for a character of its own.

* `encode_append` and `encode_eq` say how a text is written, and `eq_of_mem_utf8EncodeChar` that the
  octets below 128 stand for nothing but themselves.
* `Decoder.foldl_next_utf8EncodeChar` is what the decoder does with the octets of one character.
* `decodeLossy_encode` and `decode?_encode` are the round trips.
-/

namespace PipeShell.Text

/-! ### Writing -/

theorem toList_loop_eq (bytes : ByteArray) (i : Nat) (done : Bytes) :
    ByteArray.toList.loop bytes i done = done.reverse ++ bytes.data.toList.drop i := by
  fun_induction ByteArray.toList.loop bytes i done with
  | case1 i done h ih =>
    have hi : i < bytes.data.toList.length := by simpa using h
    have hget : bytes.get! i = bytes.data.toList[i] := by
      simp [ByteArray.get!, getElem!_pos bytes.data i (by simpa using hi)]
    rw [ih, List.drop_eq_getElem_cons hi, List.reverse_cons, List.append_assoc,
      List.singleton_append, hget]
  | case2 i done h =>
    rw [List.drop_eq_nil_of_le (by simpa using Nat.le_of_not_lt h), List.append_nil]

/-- A text is written character by character. -/
theorem encode_eq (text : String) : encode text = text.toList.flatMap String.utf8EncodeChar := by
  have hdata : text.toUTF8 = (text.toList.flatMap String.utf8EncodeChar).toByteArray :=
    String.utf8Encode_toList.symm
  rw [encode, ByteArray.toList, toList_loop_eq, hdata, List.toList_data_toByteArray]
  rfl

theorem encode_append (text text' : String) :
    encode (text ++ text') = encode text ++ encode text' := by
  rw [encode_eq, encode_eq, encode_eq, String.toList_append, List.flatMap_append]

/-- **An octet below 128 is a character of its own**, and a part of no other one. -/
theorem eq_of_mem_utf8EncodeChar {c : Char} {b : UInt8} (h : b ∈ String.utf8EncodeChar c)
    (hb : b.toNat < 128) : String.utf8EncodeChar c = [b] ∧ c = Char.ofNat b.toNat := by
  have hhigh : ∀ n, n < 128 → b ≠ UInt8.ofNat (n + 128) := by
    rintro n hn rfl
    have hsize : n + 128 < 256 := by omega
    rw [UInt8.toNat_ofNat_of_lt' hsize] at hb
    omega
  have hv : c.val.toNat = c.toNat := rfl
  rw [String.utf8EncodeChar] at h ⊢
  -- only a character that is written as one octet is written with one below 128
  split_ifs at h ⊢ with hone htwo hthree
  · obtain rfl := List.mem_singleton.mp h
    have hsize : c.val.toNat < 256 := by omega
    rw [UInt8.toNat_ofNat_of_lt' hsize]
    exact ⟨rfl, (Char.ofNat_toNat c).symm⟩
  all_goals
    exfalso
    simp only [List.mem_cons, List.not_mem_nil, or_false] at h
  · obtain h | h := h
    · exact hhigh (c.val.toNat / 64 % 32 + 64) (by omega) h
    · exact hhigh _ (by omega) h
  · obtain h | h | h := h
    · exact hhigh (c.val.toNat / 4096 % 16 + 96) (by omega) h
    · exact hhigh _ (by omega) h
    · exact hhigh _ (by omega) h
  · obtain h | h | h | h := h
    · exact hhigh (c.val.toNat / 262144 % 8 + 112) (by omega) h
    · exact hhigh _ (by omega) h
    · exact hhigh _ (by omega) h
    · exact hhigh _ (by omega) h

/-! ### The octets of a character -/

/-- What may stand behind the octets so far, and what comes of it. -/
theorem Expect.next_ofNat {e : Expect} {n : Nat} (hlow : e.low.toNat ≤ n)
    (hhigh : n ≤ e.high.toNat) : e.next (UInt8.ofNat n) = some (match e.more with
      | 0 => .inl (Char.ofNat (64 * e.value + (n - 0x80)))
      | more + 1 => .inr ⟨more, 0x80, 0xbf, 64 * e.value + (n - 0x80)⟩) := by
  have hsize : n < 256 := Nat.lt_of_le_of_lt hhigh (UInt8.toNat_lt_size _)
  have hn : (UInt8.ofNat n).toNat = n := UInt8.toNat_ofNat_of_lt' hsize
  have hmay : e.low ≤ UInt8.ofNat n ∧ UInt8.ofNat n ≤ e.high := by
    rw [UInt8.le_iff_toNat_le, UInt8.le_iff_toNat_le, hn]
    exact ⟨hlow, hhigh⟩
  rw [Expect.next, if_pos hmay, hn]
  cases e.more <;> rfl

/-- The last octet of a character. -/
theorem Expect.next_last {value n : Nat} (h : n < 64) :
    (⟨0, 0x80, 0xbf, value⟩ : Expect).next (UInt8.ofNat (n + 128)) =
      some (.inl (Char.ofNat (64 * value + n))) := by
  rw [next_ofNat (by simp) (by simp; omega), Nat.add_sub_cancel]

/-- An octet of a character that is neither its first nor its last. -/
theorem Expect.next_middle {more value n : Nat} {low high : UInt8} (hlow : low.toNat ≤ n + 128)
    (hhigh : n + 128 ≤ high.toNat) :
    (⟨more + 1, low, high, value⟩ : Expect).next (UInt8.ofNat (n + 128)) =
      some (.inr ⟨more, 0x80, 0xbf, 64 * value + n⟩) := by
  rw [next_ofNat hlow hhigh, Nat.add_sub_cancel]

/-- A character of one octet. -/
theorem lead_one {v : Nat} (h : v < 128) : lead (UInt8.ofNat v) = .whole (Char.ofNat v) := by
  have hsize : v < 256 := by omega
  have hn : (UInt8.ofNat v).toNat = v := UInt8.toNat_ofNat_of_lt' hsize
  rw [lead, hn, if_pos h]

/-- What the first octet of a character of two octets announces. -/
theorem lead_two {v : Nat} (hlow : 2 ≤ v) (hhigh : v < 32) :
    lead (UInt8.ofNat (v + 192)) = .begun ⟨0, 0x80, 0xbf, v⟩ := by
  have hsize : v + 192 < 256 := by omega
  have hn : (UInt8.ofNat (v + 192)).toNat = v + 192 := UInt8.toNat_ofNat_of_lt' hsize
  rw [lead, hn, if_neg (by omega), if_neg (by omega), if_pos (by omega), Nat.add_sub_cancel]

/-- What the first octet of a character of three octets announces: the bounds rule out what could be
written shorter, and the surrogates. -/
theorem lead_three {v : Nat} (hhigh : v < 16) :
    lead (UInt8.ofNat (v + 224)) = .begun ⟨1, if v = 0 then 0xa0 else 0x80,
      if v = 13 then 0x9f else 0xbf, v⟩ := by
  obtain rfl | hshort := eq_or_ne v 0
  · rfl
  obtain rfl | hsurrogate := eq_or_ne v 13
  · rfl
  have hsize : v + 224 < 256 := by omega
  have hn : (UInt8.ofNat (v + 224)).toNat = v + 224 := UInt8.toNat_ofNat_of_lt' hsize
  rw [lead, hn, if_neg (by omega), if_neg (by omega), if_neg (by omega), if_neg (by omega),
    if_neg (by omega), if_pos (by omega), Nat.add_sub_cancel, if_neg hshort, if_neg hsurrogate]

/-- What the first octet of a character of four octets announces. -/
theorem lead_four {v : Nat} (hhigh : v < 5) :
    lead (UInt8.ofNat (v + 240)) = .begun ⟨2, if v = 0 then 0x90 else 0x80,
      if v = 4 then 0x8f else 0xbf, v⟩ := by
  obtain rfl | hshort := eq_or_ne v 0
  · rfl
  obtain rfl | hlong := eq_or_ne v 4
  · rfl
  have hsize : v + 240 < 256 := by omega
  have hn : (UInt8.ofNat (v + 240)).toNat = v + 240 := UInt8.toNat_ofNat_of_lt' hsize
  rw [lead, hn, if_neg (by omega), if_neg (by omega), if_neg (by omega), if_neg (by omega),
    if_neg (by omega), if_neg (by omega), if_neg (by omega), if_pos (by omega),
    Nat.add_sub_cancel, if_neg hshort, if_neg hlong]

namespace Decoder

/-- The decoder with one more character. -/
def push (d : Decoder) (c : Char) : Decoder :=
  { d with read := c :: d.read, open? := none }

section Next

variable {d : Decoder} {e e' : Expect} {c : Char} {b : UInt8}

theorem next_whole (hopen : d.open? = none) (h : lead b = .whole c) : d.next b = d.push c := by
  simp only [next, hopen, start, h, push]

theorem next_begun (hopen : d.open? = none) (h : lead b = .begun e) :
    d.next b = { d with open? := some e } := by
  simp only [next, hopen, start, h]

theorem next_more (h : e.next b = some (.inr e')) :
    next { d with open? := some e } b = { d with open? := some e' } := by
  simp only [next, h]

theorem next_last (h : e.next b = some (.inl c)) :
    next { d with open? := some e } b = d.push c := by
  simp only [next, h, push]

end Next

/-- **The decoder finds the character that its octets have been written for.** -/
theorem foldl_next_utf8EncodeChar {d : Decoder} (hopen : d.open? = none) (c : Char) :
    (String.utf8EncodeChar c).foldl next d = d.push c := by
  obtain ⟨v, hv⟩ : ∃ v, v = c.val.toNat := ⟨_, rfl⟩
  have hchar : Char.ofNat v = c := hv ▸ Char.ofNat_toNat c
  have hvalid : v < 0xd800 ∨ (0xdfff < v ∧ v < 0x110000) := hv ▸ c.valid
  have hlast : v % 64 < 64 := Nat.mod_lt v (by decide)
  rw [String.utf8EncodeChar, ← hv]
  -- one to four octets
  split_ifs with hone htwo hthree
  · have hlead := lead_one (Nat.lt_succ_of_le hone)
    rw [List.foldl_cons, next_whole hopen hlead, List.foldl_nil, hchar]
  · have hvalue : 64 * (v / 64) + v % 64 = v := Nat.div_add_mod v 64
    have hfirst : v / 64 % 32 = v / 64 := Nat.mod_eq_of_lt (by omega)
    have hlead : lead (UInt8.ofNat (v / 64 + 192)) = .begun ⟨0, 0x80, 0xbf, v / 64⟩ :=
      lead_two (by omega) (by omega)
    rw [hfirst, List.foldl_cons, next_begun hopen hlead, List.foldl_cons,
      next_last (Expect.next_last hlast), List.foldl_nil, hvalue, hchar]
  · have hvalue : 64 * (64 * (v / 4096) + v / 64 % 64) + v % 64 = v := by omega
    have hfirst : v / 4096 % 16 = v / 4096 := Nat.mod_eq_of_lt (by omega)
    have hmiddle : (if v / 4096 = 0 then 0xa0 else 0x80 : UInt8).toNat ≤ v / 64 % 64 + 128 ∧
        v / 64 % 64 + 128 ≤ (if v / 4096 = 13 then 0x9f else 0xbf : UInt8).toNat := by
      constructor <;> split_ifs <;> simp <;> omega
    rw [hfirst, List.foldl_cons, next_begun hopen (lead_three (by omega)), List.foldl_cons,
      next_more (Expect.next_middle hmiddle.1 hmiddle.2), List.foldl_cons,
      next_last (Expect.next_last hlast), List.foldl_nil, hvalue, hchar]
  · have hvalue : 64 * (64 * (64 * (v / 262144) + v / 4096 % 64) + v / 64 % 64) + v % 64 = v := by
      omega
    have hfirst : v / 262144 % 8 = v / 262144 := Nat.mod_eq_of_lt (by omega)
    have hsecond : (if v / 262144 = 0 then 0x90 else 0x80 : UInt8).toNat ≤ v / 4096 % 64 + 128 ∧
        v / 4096 % 64 + 128 ≤ (if v / 262144 = 4 then 0x8f else 0xbf : UInt8).toNat := by
      constructor <;> split_ifs <;> simp <;> omega
    have hthird : (0x80 : UInt8).toNat ≤ v / 64 % 64 + 128 ∧
        v / 64 % 64 + 128 ≤ (0xbf : UInt8).toNat := by
      constructor <;> simp
      omega
    rw [hfirst, List.foldl_cons, next_begun hopen (lead_four (by omega)), List.foldl_cons,
      next_more (Expect.next_middle hsecond.1 hsecond.2), List.foldl_cons,
      next_more (Expect.next_middle hthird.1 hthird.2), List.foldl_cons,
      next_last (Expect.next_last hlast), List.foldl_nil, hvalue, hchar]

/-- The decoder finds the characters of a text. -/
theorem foldl_next_encode {d : Decoder} (hopen : d.open? = none) (text : List Char) :
    (text.flatMap String.utf8EncodeChar).foldl next d =
      { d with read := text.reverse ++ d.read, open? := none } := by
  induction text generalizing d with
  | nil =>
    obtain ⟨read, replaced, open?⟩ := d
    obtain rfl : open? = none := hopen
    rfl
  | cons c rest ih =>
    have hrest := ih (d := d.push c) rfl
    rw [List.flatMap_cons, List.foldl_append, foldl_next_utf8EncodeChar hopen, hrest, push,
      List.reverse_cons, List.append_assoc, List.singleton_append]

theorem run_encode (text : String) : run (encode text) = ⟨text.toList.reverse, false, none⟩ := by
  rw [run, encode_eq, foldl_next_encode rfl, abandon, List.append_nil]

end Decoder

/-- **What has been written is read back**, and nothing is replaced. -/
@[simp] theorem decodeLossy_encode (text : String) : decodeLossy (encode text) = text := by
  rw [decodeLossy, Decoder.run_encode, List.reverse_reverse, String.ofList_toList]

/-- What has been written can be read. -/
@[simp] theorem decode?_encode (text : String) : decode? (encode text) = some text := by
  simp only [decode?, Decoder.run_encode, List.reverse_reverse, String.ofList_toList,
    Bool.false_eq_true, if_false]

end PipeShell.Text
