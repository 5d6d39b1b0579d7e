import ConfigRefs.Proofs.Text.Place

/-!
# Text: the bytes of a text

`utf8 text` is the UTF-8 form of a text. An ASCII character is one byte of it (`RestAt.getElem?_ascii`),
and no byte of another character is one (`not_ascii_of_mem_utf8EncodeChar`). So a scan that passes all
bytes but some delimiters passes every character that is none of them, from its beginning and from
inside it (`Passes.char`, `Passes.jump`).
-/

namespace ConfigRefs.Text

/-- The UTF-8 form of a text. -/
def utf8 (text : List Char) : List UInt8 := text.flatMap String.utf8EncodeChar

/-- The byte of an ASCII character. -/
def asciiByte (c : Char) : UInt8 := UInt8.ofNat c.toNat

/-! ### Bytes of characters -/

theorem utf8_append (a b : List Char) : utf8 (a ++ b) = utf8 a ++ utf8 b := List.flatMap_append

theorem utf8_cons (c : Char) (text : List Char) :
    utf8 (c :: text) = String.utf8EncodeChar c ++ utf8 text := List.flatMap_cons

theorem length_utf8 : ∀ text : List Char, (utf8 text).length = byteLength text
  | [] => rfl
  | c :: text => by
    rw [utf8_cons, List.length_append, String.length_utf8EncodeChar, length_utf8 text,
      byteLength_cons]

theorem utf8EncodeChar_ascii {c : Char} (h : c.toNat < 0x80) :
    String.utf8EncodeChar c = [asciiByte c] := by
  rw [String.utf8EncodeChar, asciiByte, Char.toNat]
  rw [Char.toNat] at h
  simp only [if_pos (show c.val.toNat ≤ 0x7f by omega)]

theorem not_ascii_of_mem_utf8EncodeChar {c : Char} (h : 0x80 ≤ c.toNat) {byte : UInt8}
    (hbyte : byte ∈ String.utf8EncodeChar c) : 0x80 ≤ byte.toNat := by
  rw [Char.toNat] at h
  rw [String.utf8EncodeChar] at hbyte
  simp only [if_neg (show ¬ c.val.toNat ≤ 0x7f by omega)] at hbyte
  split at hbyte
  · simp only [List.mem_cons, List.not_mem_nil, or_false] at hbyte
    rcases hbyte with rfl | rfl <;> simp <;> omega
  split at hbyte
  · simp only [List.mem_cons, List.not_mem_nil, or_false] at hbyte
    rcases hbyte with rfl | rfl | rfl <;> simp <;> omega
  · simp only [List.mem_cons, List.not_mem_nil, or_false] at hbyte
    rcases hbyte with rfl | rfl | rfl | rfl <;> simp <;> omega

theorem toNat_asciiByte {c : Char} (h : c.toNat < 0x80) : (asciiByte c).toNat = c.toNat := by
  rw [asciiByte, UInt8.toNat_ofNat']
  omega

theorem asciiByte_inj {c d : Char} (hc : c.toNat < 0x80) (hd : d.toNat < 0x80) :
    asciiByte c = asciiByte d ↔ c = d := by
  refine ⟨fun h => ?_, fun h => congrArg asciiByte h⟩
  have := congrArg UInt8.toNat h
  rw [toNat_asciiByte hc, toNat_asciiByte hd] at this
  exact Char.toNat_inj.1 this

theorem utf8Size_eq_one {c : Char} (h : c.toNat < 0x80) : c.utf8Size = 1 := by
  rw [← String.length_utf8EncodeChar, utf8EncodeChar_ascii h, List.length_singleton]

/-! ### Bytes at places -/

section Places

variable {text rest : List Char} {offset : Nat} {c : Char}

theorem RestAt.lt_length (h : RestAt text offset (c :: rest)) : offset < (utf8 text).length := by
  have : 0 < byteLength (c :: rest) := byteLength_pos
  rw [length_utf8, h.byteLength_eq]
  omega

theorem RestAt.eq_length (h : RestAt text offset []) : offset = (utf8 text).length := by
  rw [length_utf8, h.byteLength_eq, byteLength_nil, Nat.add_zero]

theorem RestAt.getElem? (h : RestAt text offset (c :: rest)) {k : Nat} (hk : k < c.utf8Size) :
    (utf8 text)[offset + k]? = (String.utf8EncodeChar c)[k]? := by
  obtain ⟨before, rfl, rfl⟩ := h
  rw [utf8_append, utf8_cons, ← length_utf8, List.getElem?_append_right (Nat.le_add_right _ _),
    Nat.add_sub_cancel_left,
    List.getElem?_append_left (by rw [String.length_utf8EncodeChar]; exact hk)]

theorem RestAt.getElem?_ascii (h : RestAt text offset (c :: rest)) (hc : c.toNat < 0x80) :
    (utf8 text)[offset]? = some (asciiByte c) := by
  have := h.getElem? c.utf8Size_pos
  rwa [Nat.add_zero, utf8EncodeChar_ascii hc] at this

/-- The first byte of a character is that of an ASCII one only if they are the same. -/
theorem RestAt.getElem?_eq_asciiByte (h : RestAt text offset (c :: rest)) {d : Char}
    (hd : d.toNat < 0x80) : (utf8 text)[offset]? = some (asciiByte d) ↔ c = d := by
  rcases Nat.lt_or_ge c.toNat 0x80 with hascii | hother
  · rw [h.getElem?_ascii hascii, Option.some.injEq, asciiByte_inj hascii hd]
  · constructor
    · intro hbyte
      have hfirst := h.getElem? c.utf8Size_pos
      rw [Nat.add_zero, hbyte] at hfirst
      have := not_ascii_of_mem_utf8EncodeChar hother (List.mem_of_getElem? hfirst.symm)
      rw [toNat_asciiByte hd] at this
      omega
    · rintro rfl
      omega

theorem RestAt.drop (h : RestAt text offset rest) : (utf8 text).drop offset = utf8 rest := by
  obtain ⟨before, rfl, rfl⟩ := h
  rw [utf8_append, ← length_utf8, List.drop_left]

/-- **A text begins with an ASCII marker** iff its bytes do. -/
theorem isPrefix_utf8 : ∀ (marker text : List Char), (∀ d ∈ marker, d.toNat < 0x80) →
    (marker.map asciiByte <+: utf8 text ↔ marker <+: text)
  | [], text, _ => by simp
  | d :: marker, [], _ => by simp [utf8]
  | d :: marker, c :: text, h => by
    have hd := h d List.mem_cons_self
    have ih := isPrefix_utf8 marker text fun e he => h e (List.mem_cons_of_mem d he)
    rw [utf8_cons, List.map_cons, List.cons_prefix_cons]
    rcases Nat.lt_or_ge c.toNat 0x80 with hascii | hother
    · rw [utf8EncodeChar_ascii hascii, List.singleton_append, List.cons_prefix_cons,
        asciiByte_inj hd hascii, ih]
    · obtain ⟨byte, bytes, hbytes⟩ :=
        List.exists_cons_of_ne_nil (String.utf8EncodeChar_ne_nil (c := c))
      have hlarge := not_ascii_of_mem_utf8EncodeChar hother (hbytes ▸ List.mem_cons_self)
      rw [hbytes, List.cons_append, List.cons_prefix_cons]
      constructor
      · rintro ⟨rfl, -⟩
        rw [toNat_asciiByte hd] at hlarge
        omega
      · rintro ⟨rfl, -⟩
        omega

end Places

/-! ### Scans -/

/-- A function of a position does not change when the position passes a byte that is none of the
delimiters. -/
def Passes {α : Type} (bytes : List UInt8) (delimiters : List Char) (f : Nat → α) : Prop :=
  ∀ position byte, bytes[position]? = some byte → (∀ d ∈ delimiters, byte ≠ asciiByte d) →
    f position = f (position + 1)

section Passes

variable {α : Type} {delimiters text rest : List Char} {f : Nat → α} {offset : Nat} {c : Char}

/-- **A scan passes the rest of a character** that is not ASCII. -/
theorem Passes.inside (hpasses : Passes (utf8 text) delimiters f)
    (hdelimiters : ∀ d ∈ delimiters, d.toNat < 0x80) (h : RestAt text offset (c :: rest))
    (hother : 0x80 ≤ c.toNat) :
    ∀ {k : Nat}, k ≤ c.utf8Size → f (offset + k) = f (offset + c.utf8Size) := by
  intro k hk
  obtain ⟨left, hleft⟩ := Nat.exists_eq_add_of_le hk
  induction left generalizing k with
  | zero => rw [hleft, Nat.add_zero]
  | succ left ih =>
    have hlt : k < (String.utf8EncodeChar c).length := by rw [String.length_utf8EncodeChar]; omega
    have hbyte := h.getElem? (k := k) (by omega)
    rw [List.getElem?_eq_getElem hlt] at hbyte
    have hlarge := not_ascii_of_mem_utf8EncodeChar hother (List.getElem_mem hlt)
    rw [hpasses _ _ hbyte, Nat.add_assoc, ih (by omega) (by omega)]
    intro d hd heq
    have := hdelimiters d hd
    rw [heq, toNat_asciiByte this] at hlarge
    omega

/-- **A scan passes a character** that is no delimiter. -/
theorem Passes.char (hpasses : Passes (utf8 text) delimiters f)
    (hdelimiters : ∀ d ∈ delimiters, d.toNat < 0x80) (h : RestAt text offset (c :: rest))
    (hc : c ∉ delimiters) : f offset = f (offset + c.utf8Size) := by
  rcases Nat.lt_or_ge c.toNat 0x80 with hascii | hother
  · rw [utf8Size_eq_one hascii]
    refine hpasses _ _ (h.getElem?_ascii hascii) fun d hd heq => hc ?_
    rwa [(asciiByte_inj hascii (hdelimiters d hd)).1 heq]
  · exact hpasses.inside hdelimiters h hother (Nat.zero_le _)

/-- **A scan goes on behind a character** when it has jumped over the first byte of it. -/
theorem Passes.jump (hpasses : Passes (utf8 text) delimiters f)
    (hdelimiters : ∀ d ∈ delimiters, d.toNat < 0x80) (h : RestAt text offset (c :: rest)) :
    f (offset + 1) = f (offset + c.utf8Size) := by
  rcases Nat.lt_or_ge c.toNat 0x80 with hascii | hother
  · rw [utf8Size_eq_one hascii]
  · exact hpasses.inside hdelimiters h hother c.utf8Size_pos

end Passes

end ConfigRefs.Text
