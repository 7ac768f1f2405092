import DefaultGateway.Prefix
import DefaultGateway.Proofs.AddressText

/-!
# What a prefix contains, and how it is written

A prefix contains the addresses that agree with its own on its first bits. Agreement on some bits is
an equivalence, and is implied by agreement on more: the bits of a prefix after its length make no
difference, and a longer prefix lies within a shorter one that contains its address. A prefix is
read from an address and a number around the last slash of a text, and so from its own text.
-/

namespace DefaultGateway

theorem Family.width_le (family : Family) : family.width ≤ 128 := by cases family <;> decide

/-! ## Bits -/

namespace Address

/-- The bits of an address in order, the most significant first. -/
def bit (a : Address) (i : Nat) : Bool :=
  match a with
  | .v4 bits => bits.getMsbD i
  | .v6 bits => bits.getMsbD i

/-- Two addresses of one family that have their first bits in common. -/
def Agree (length : Nat) (a b : Address) : Prop :=
  a.family = b.family ∧ ∀ i < length, a.bit i = b.bit i

variable {a b c : Address} {length : Nat}

theorem eq_of_bit_eq (sameFamily : a.family = b.family) (same : ∀ i, a.bit i = b.bit i) :
    a = b := by
  cases a with
  | v4 bits =>
      cases b with
      | v4 others => exact congrArg v4 (BitVec.eq_of_getMsbD_eq fun i _ => same i)
      | v6 others => cases sameFamily
  | v6 bits =>
      cases b with
      | v4 others => cases sameFamily
      | v6 others => exact congrArg v6 (BitVec.eq_of_getMsbD_eq fun i _ => same i)

/-- The first bits of a word stay, and the others become zero, also where none or all are first. -/
theorem getMsbD_and_mask {w : Nat} (bits : BitVec w) (length i : Nat) :
    (bits &&& mask w length).getMsbD i = (decide (i < length) && bits.getMsbD i) := by
  rw [BitVec.getMsbD_and, mask, BitVec.getMsbD_shiftLeft, BitVec.getMsbD_allOnes, Bool.and_comm]
  by_cases inside : i < w
  · congr 1
    rw [decide_eq_decide]
    omega
  · rw [BitVec.getMsbD_of_ge bits i (by omega), Bool.and_false, Bool.and_false]

theorem bit_network (a : Address) (length i : Nat) :
    (a.network length).bit i = (decide (i < length) && a.bit i) := by
  cases a with
  | v4 bits => exact getMsbD_and_mask bits length i
  | v6 bits => exact getMsbD_and_mask bits length i

theorem network_eq_network_iff : a.network length = b.network length ↔ Agree length a b := by
  constructor
  · intro same
    refine ⟨by rw [← family_network length a, same, family_network], fun i inside => ?_⟩
    have sameBit := congrArg (bit · i) same
    simpa only [bit_network, inside, decide_true, Bool.true_and] using sameBit
  · rintro ⟨sameFamily, same⟩
    refine eq_of_bit_eq (by rw [family_network, family_network, sameFamily]) fun i => ?_
    rw [bit_network, bit_network]
    by_cases inside : i < length
    · rw [same i inside]
    · rw [decide_eq_false inside, Bool.false_and, Bool.false_and]

theorem Agree.symm (agree : Agree length a b) : Agree length b a :=
  ⟨agree.1.symm, fun i inside => (agree.2 i inside).symm⟩

theorem Agree.trans (first : Agree length a b) (second : Agree length b c) : Agree length a c :=
  ⟨first.1.trans second.1, fun i inside => (first.2 i inside).trans (second.2 i inside)⟩

theorem Agree.mono {shorter : Nat} (le : shorter ≤ length) (agree : Agree length a b) :
    Agree shorter a b :=
  ⟨agree.1, fun i inside => agree.2 i (Nat.lt_of_lt_of_le inside le)⟩

end Address

/-! ## Fields and numerals -/

namespace Text

variable {separator : Char} {l front back : List Char} {n : Nat}

theorem not_mem_of_splitLast?_eq_none (whole : splitLast? separator l = none) : separator ∉ l := by
  induction l with
  | nil => exact List.not_mem_nil
  | cons c rest inductionHypothesis =>
      rw [splitLast?] at whole
      split at whole
      · cases whole
      · rename_i wholeLater
        split at whole
        · cases whole
        · rename_i apart
          exact List.not_mem_cons_of_ne_of_not_mem (Ne.symm apart) (inductionHypothesis wholeLater)

/-- A text splits around a separator after which there is no other. -/
theorem splitLast?_eq_some_iff :
    splitLast? separator l = some (front, back) ↔
      l = front ++ separator :: back ∧ separator ∉ back := by
  constructor
  · intro parted
    induction l generalizing front with
    | nil => cases parted
    | cons c rest inductionHypothesis =>
        rw [splitLast?] at parted
        split at parted
        · rename_i later
          cases parted
          obtain ⟨rfl, absent⟩ := inductionHypothesis later
          exact ⟨rfl, absent⟩
        · rename_i wholeLater
          split at parted
          · rename_i same
            cases parted
            exact ⟨same ▸ rfl, not_mem_of_splitLast?_eq_none wholeLater⟩
          · cases parted
  · rintro ⟨rfl, absent⟩
    exact splitLast?_append_cons front absent

/-- A number in decimal digits, with any zeros in front and perhaps after a plus sign. -/
def WritesNatural (l : List Char) (n : Nat) : Prop :=
  ∃ digits, (l = digits ∨ l = '+' :: digits) ∧ digits ≠ [] ∧
    (∀ c ∈ digits, c.isDigit = true) ∧ Nat.ofDigitChars 10 digits 0 = n

theorem readDigits_eq_some_iff :
    readDigits l = some n ↔
      l ≠ [] ∧ (∀ c ∈ l, c.isDigit = true) ∧ Nat.ofDigitChars 10 l 0 = n := by
  rw [readDigits, Option.ite_none_right_eq_some, List.all_eq_true, and_assoc, Option.some.injEq]

theorem readNatural_eq_some_iff {bound : Nat} :
    readNatural bound l = some n ↔ WritesNatural l n ∧ n < bound := by
  unfold readNatural
  rw [Option.filter_eq_some_iff, readDigits_eq_some_iff, decide_eq_true_eq]
  refine and_congr_left fun _ => ?_
  split
  · rename_i digits
    constructor
    · exact fun written => ⟨digits, .inr rfl, written⟩
    · rintro ⟨others, same | same, written⟩
      · -- A plus sign is no digit.
        subst same
        exact absurd (written.2.1 '+' List.mem_cons_self) (by decide)
      · cases same
        exact written
  · rename_i unsigned
    constructor
    · exact fun written => ⟨l, .inl rfl, written⟩
    · rintro ⟨digits, same | same, written⟩
      · exact same ▸ written
      · exact absurd same (unsigned digits)

end Text

namespace Prefix

open Address

variable {p q : Prefix} {a : Address}

theorem new_eq_ok_iff {length : Nat} :
    new a length = .ok p ↔ a = p.address ∧ length = p.length := by
  rw [new]
  split
  · rw [Except.ok.injEq]
    constructor
    · rintro rfl
      exact ⟨rfl, rfl⟩
    · rintro ⟨rfl, rfl⟩
      rfl
  · rename_i long
    constructor
    · intro made
      cases made
    · rintro ⟨rfl, rfl⟩
      exact absurd p.length_le long

theorem length_lt_size (p : Prefix) : p.length < UInt8.size :=
  Nat.lt_of_le_of_lt (Nat.le_trans p.length_le p.address.family.width_le) (by decide)

/-! ## Containment -/

theorem contains_iff_agree : p.contains a = true ↔ Agree p.length a p.address := by
  rw [contains, Bool.and_eq_true, beq_iff_eq, beq_iff_eq, network, network_eq_network_iff]
  exact and_iff_right_of_imp fun agree => agree.1

/-- An address is contained exactly if it makes up a prefix of the same length and network. -/
theorem contains_iff_network :
    p.contains a = true ↔ ∃ n, new a p.length = .ok n ∧ n.network = p.network := by
  rw [contains_iff_agree]
  constructor
  · intro agree
    have fits : p.length ≤ a.family.width := agree.1 ▸ p.length_le
    exact ⟨⟨a, p.length, fits⟩, new_eq_ok_iff.2 ⟨rfl, rfl⟩, network_eq_network_iff.2 agree⟩
  · rintro ⟨n, made, same⟩
    obtain ⟨rfl, sameLength⟩ := new_eq_ok_iff.1 made
    rw [network, ← sameLength] at same
    exact network_eq_network_iff.1 same

theorem contains_congr (sameLength : q.length = p.length)
    (agree : Agree p.length q.address p.address) (a : Address) : q.contains a = p.contains a := by
  rw [Bool.eq_iff_iff, contains_iff_agree, contains_iff_agree, sameLength]
  exact ⟨fun inside => inside.trans agree, fun inside => inside.trans agree.symm⟩

theorem contains_of_contains (longer : p.length ≤ q.length)
    (within : p.contains q.address = true) (inside : q.contains a = true) :
    p.contains a = true := by
  rw [contains_iff_agree] at *
  exact (inside.mono longer).trans within

/-! ## Text -/

/-- An address and a length around the last slash of a text. -/
def IsWrittenAs (p : Prefix) (text : String) : Prop :=
  ∃ front back : String, text = front ++ "/" ++ back ∧ '/' ∉ back.toList ∧
    Address.ofText? front = some p.address ∧ Text.WritesNatural back.toList p.length

theorem parse_eq_ok_iff {text : String} : parse text = .ok p ↔ p.IsWrittenAs text := by
  constructor
  · intro parsed
    rw [parse] at parsed
    split at parsed
    · cases parsed
    · rename_i front back parted
      split at parsed
      · cases parsed
      · cases parsed
      · rename_i address length readAddress readLength
        obtain ⟨rfl, rfl⟩ := new_eq_ok_iff.1 parsed
        obtain ⟨whole, absent⟩ := Text.splitLast?_eq_some_iff.1 parted
        refine ⟨.ofList front, .ofList back, ?_, ?_, ?_, ?_⟩
        · rw [← String.toList_inj]
          simp [whole]
        · rwa [String.toList_ofList]
        · rwa [Address.ofText?, String.toList_ofList]
        · rw [String.toList_ofList]
          exact (Text.readNatural_eq_some_iff.1 readLength).1
  · rintro ⟨front, back, rfl, absent, readAddress, written⟩
    have parted : Text.splitLast? '/' (front ++ "/" ++ back).toList =
        some (front.toList, back.toList) :=
      Text.splitLast?_eq_some_iff.2 ⟨by simp, absent⟩
    have readLength : Text.readNatural 256 back.toList = some p.length :=
      Text.readNatural_eq_some_iff.2 ⟨written, p.length_lt_size⟩
    rw [Address.ofText?] at readAddress
    simp only [parse, parted, readAddress, readLength]
    exact new_eq_ok_iff.2 ⟨rfl, rfl⟩

theorem isWrittenAs_text (p : Prefix) : p.IsWrittenAs p.text := by
  have digits : ∀ c ∈ Nat.toDigits 10 p.length, c.isDigit = true := fun _ =>
    Text.isDigit_of_mem_toDigits
  refine ⟨p.address.text, .ofList (Nat.toDigits 10 p.length), ?_, ?_, p.address.ofText?_text, ?_⟩
  · rw [← String.toList_inj]
    simp [text, toChars, Address.text]
  · rw [String.toList_ofList]
    exact fun slash => absurd (digits '/' slash) (by decide)
  · rw [String.toList_ofList]
    exact ⟨_, .inl rfl, Nat.toDigits_ne_nil, digits, Nat.ofDigitChars_ten_toDigits⟩

/-! ## Main result -/

/-- A prefix contains the addresses of its family that agree with its own on its first bits: those
whose network of its length is its network, the address with its later bits cleared. To these later
bits containment is blind, and what a prefix that is no shorter contains lies within every prefix
that contains its address. A prefix is read from exactly the texts in which it is written, and its
own text is one of them. -/
theorem contains_iff_agree_and_parse_iff_written (p : Prefix) :
    (∀ a, (p.contains a = true ↔ Agree p.length a p.address) ∧
      (p.contains a = true ↔ ∃ n, new a p.length = .ok n ∧ n.network = p.network)) ∧
      (p.network.family = p.family ∧
        ∀ i, p.network.bit i = (decide (i < p.length) && p.address.bit i)) ∧
      (∀ q : Prefix, q.length = p.length → Agree p.length q.address p.address →
        ∀ a, q.contains a = p.contains a) ∧
      (∀ q : Prefix, p.length ≤ q.length → p.contains q.address = true →
        ∀ a, q.contains a = true → p.contains a = true) ∧
      (∀ text, parse text = .ok p ↔ p.IsWrittenAs text) ∧ parse p.text = .ok p :=
  ⟨fun _ => ⟨contains_iff_agree, contains_iff_network⟩,
    ⟨family_network p.length p.address, bit_network p.address p.length⟩, fun _ => contains_congr,
    fun _ longer within _ => contains_of_contains longer within, fun _ => parse_eq_ok_iff,
    parse_eq_ok_iff.2 p.isWrittenAs_text⟩

/-- A host on a network of the second family, with another on the same network beside it. -/
theorem contains_iff_agree_and_parse_iff_written_hosts :
    let p : Prefix := ⟨.v6 0x20010db8000000000000000000000001#128, 33, by decide⟩
    let q : Prefix := ⟨.v6 0x20010db87fff00000000000000000000#128, 33, by decide⟩
    let host : Prefix := ⟨q.address, 128, by decide⟩
    (∀ a, q.contains a = p.contains a) ∧
      p.contains host.address = true ∧ host.contains q.address = true ∧
      p.contains q.address = true ∧ p.contains (.v6 0x20010db8800000000000000000000001#128) = false ∧
      parse "2001:db8::1/+033" = .ok p := by
  intro p q host
  obtain ⟨inside, -, blind, nested, reads, -⟩ := contains_iff_agree_and_parse_iff_written p
  have agree : Agree p.length q.address p.address := (inside q.address).1.1 (by decide)
  have within : p.contains host.address = true := by decide
  have itself : host.contains q.address = true := by decide
  have length : Text.WritesNatural "+033".toList 33 :=
    ⟨"033".toList, by decide, by decide, List.all_eq_true.1 (by decide), by decide⟩
  have written : p.IsWrittenAs "2001:db8::1/+033" :=
    ⟨"2001:db8::1", "+033", by decide, by decide, by decide, length⟩
  exact ⟨blind q rfl agree, within, itself, nested host (by decide) within q.address itself,
    by decide, (reads _).2 written⟩

end Prefix

end DefaultGateway
