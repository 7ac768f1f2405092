import DefaultGateway.Address.Text
import DefaultGateway.Proofs.Numerals

/-!
# An address is read back from its text

Main statement: `ofText?_text`. Addresses of the second family are written in three manners: with
all their groups, with a run of zeros left out, or with octets at their end.
-/

namespace DefaultGateway.Address

open Text

/-! ## Octets -/

theorem readOctet_toDigits {n : Nat} (octet : n < 256) :
    readOctet (Nat.toDigits 10 n) = some n := by
  have digits : (Nat.toDigits 10 n).all Char.isDigit = true :=
    List.all_eq_true.2 fun _ => isDigit_of_mem_toDigits
  have short : (Nat.toDigits 10 n).length ≤ 3 :=
    (Nat.length_toDigits_le_iff (by decide) (by decide)).2 (by omega)
  have leading : (Nat.toDigits 10 n).head? ≠ some '0' ∨ (Nat.toDigits 10 n).length = 1 := by
    by_cases positive : 0 < n
    · exact .inl (head?_toDigits positive)
    · obtain rfl : n = 0 := by omega
      exact .inr rfl
  rw [readOctet, if_pos ⟨Nat.toDigits_ne_nil, short, digits, leading⟩,
    Nat.ofDigitChars_ten_toDigits]
  simpa using octet

theorem readDotted_dotted (bits : BitVec 32) : readDotted (dotted bits) = some bits.toNat := by
  have fields : splitOn '.' (dotted bits) = (octets bits).map (Nat.toDigits 10) := by
    refine splitOn_intercalate (by simp [octets]) fun field member point => ?_
    obtain ⟨n, -, rfl⟩ := List.mem_map.1 member
    exact absurd (isDigit_of_mem_toDigits point) (by decide)
  have values : ((octets bits).map (Nat.toDigits 10)).mapM readOctet = some (octets bits) := by
    refine mapM_map_eq_some fun n member => readOctet_toDigits ?_
    obtain ⟨shift, -, rfl⟩ := List.mem_map.1 member
    exact (bits.extractLsb' shift 8).isLt
  have whole := bits.isLt
  rw [readDotted, fields, values]
  simp only [octets, List.map_cons, List.map_nil, BitVec.extractLsb'_toNat,
    Nat.shiftRight_eq_div_pow, Option.some.injEq]
  omega

theorem readDotted_of_not_mem {l : List Char} (noPoint : '.' ∉ l) : readDotted l = none := by
  rw [readDotted, splitOn_of_not_mem noPoint]
  cases read : readOctet l <;> simp [read]

theorem readDotted_colon (l : List Char) : readDotted (':' :: l) = none := by
  have noOctet (field : List Char) : readOctet (':' :: field) = none := by
    simp [readOctet]
  have point : (':' : Char) ≠ '.' := by decide
  rw [readDotted, splitOn, if_neg point]
  cases parted : splitOn '.' l with
  | nil => exact absurd parted (splitOn_ne_nil '.' l)
  | cons field fields => simp [noOctet]

/-! ## Groups -/

theorem readGroup_hexDigits {n : Nat} (group : n < 65536) : readGroup (hexDigits n) = some n := by
  have short : (hexDigits n).length ≤ 4 :=
    (Nat.length_toDigits_le_iff (by decide) (by decide)).2 (by omega)
  rw [readGroup, if_pos ⟨Nat.toDigits_ne_nil, short⟩, readHex_hexDigits]

variable {l : List Nat}

theorem readGroups_map (groups : ∀ n ∈ l, n < 65536) : readGroups (l.map hexDigits) = some l := by
  induction l with
  | nil => rfl
  | cons n rest inductionHypothesis =>
      have first := readGroup_hexDigits (groups n List.mem_cons_self)
      have later := inductionHypothesis fun m member => groups m (List.mem_cons_of_mem n member)
      cases rest with
      | nil =>
          have noPoint := readDotted_of_not_mem (not_mem_hexDigits (by decide : _ = none) n)
          simp only [List.map_cons, List.map_nil, readGroups, noPoint, first, Option.map_some]
      | cons next rest =>
          rw [List.map_cons] at later
          simp only [List.map_cons, readGroups, first, later]
          rfl

theorem hexGroups_cons_cons (n next : Nat) (rest : List Nat) :
    hexGroups (n :: next :: rest) = hexDigits n ++ ':' :: hexGroups (next :: rest) := by
  rw [hexGroups, List.map_cons, List.intercalate_cons_of_ne_nil (by simp)]
  simp [hexGroups]

theorem not_mem_hexGroups {c : Char} (mark : hexDigitValue? c = none) (apart : c ≠ ':')
    (l : List Nat) : c ∉ hexGroups l := by
  induction l with
  | nil => simp [hexGroups]
  | cons n rest inductionHypothesis =>
      cases rest with
      | nil => simpa [hexGroups] using not_mem_hexDigits mark n
      | cons next rest =>
          rw [hexGroups_cons_cons, List.mem_append, List.mem_cons, not_or, not_or]
          exact ⟨not_mem_hexDigits mark n, apart, inductionHypothesis⟩

/-- Groups begin with a digit. -/
theorem hexGroups_eq_cons (n : Nat) (rest : List Nat) :
    ∃ c later, hexGroups (n :: rest) = c :: later ∧ c ≠ ':' := by
  obtain ⟨c, later, written⟩ : ∃ c later, hexDigits n = c :: later :=
    List.exists_cons_of_ne_nil Nat.toDigits_ne_nil
  have apart : c ≠ ':' := by
    rintro rfl
    exact not_mem_hexDigits (by decide) n (written ▸ List.mem_cons_self)
  cases rest with
  | nil => exact ⟨c, later, by simp [hexGroups, written], apart⟩
  | cons next rest => exact ⟨c, _, by rw [hexGroups_cons_cons, written, List.cons_append], apart⟩

theorem splitOn_hexGroups (someGroup : l ≠ []) : splitOn ':' (hexGroups l) = l.map hexDigits := by
  refine splitOn_intercalate (by simpa using someGroup) fun field member => ?_
  obtain ⟨n, -, rfl⟩ := List.mem_map.1 member
  exact not_mem_hexDigits (by decide) n

theorem sideFields_hexGroups (l : List Nat) : sideFields (hexGroups l) = l.map hexDigits := by
  cases l with
  | nil => rfl
  | cons n rest =>
      obtain ⟨c, later, begins, -⟩ := hexGroups_eq_cons n rest
      rw [sideFields, if_neg (by simp [begins]), splitOn_hexGroups (by simp)]

/-! ## The two colons in a row -/

section SplitPair

variable {first second : Char}

theorem splitPair?_append_of_not_mem {field l : List Char} (absent : first ∉ field)
    (noPair : splitPair? first second l = none) : splitPair? first second (field ++ l) = none := by
  induction field with
  | nil => exact noPair
  | cons c field inductionHypothesis =>
      have ⟨apart, absentLater⟩ : first ≠ c ∧ first ∉ field := by simpa using absent
      have later := inductionHypothesis absentLater
      rw [List.cons_append]
      cases rest : field ++ l with
      | nil => rfl
      | cons d rest' =>
          rw [splitPair?, if_neg fun same => apart same.1.symm, ← rest, later]
          rfl

/-- Where no pair begins before, a text parts at a pair. -/
theorem splitPair?_append_pair {front : List Char}
    (noPair : splitPair? first second (front ++ [first]) = none) (back : List Char) :
    splitPair? first second (front ++ first :: second :: back) = some (front, back) := by
  induction front with
  | nil => simp [splitPair?]
  | cons c front inductionHypothesis =>
      cases front with
      | nil =>
          simp only [List.cons_append, List.nil_append, splitPair?] at noPair ⊢
          split at noPair
          · cases noPair
          · rename_i apart
            rw [if_neg apart]
            simp
      | cons d front =>
          simp only [List.cons_append, splitPair?] at noPair inductionHypothesis ⊢
          split at noPair
          · cases noPair
          · rename_i apart
            rw [if_neg apart, inductionHypothesis (Option.map_eq_none_iff.1 noPair)]
            rfl

end SplitPair

/-- Neither between groups nor after them are two colons in a row. -/
theorem splitPair?_hexGroups (l : List Nat) {closing : List Char}
    (short : closing = [] ∨ closing = [':']) :
    splitPair? ':' ':' (hexGroups l ++ closing) = none := by
  have closes : splitPair? ':' ':' closing = none := by
    rcases short with rfl | rfl <;> rfl
  have noColon (n : Nat) : ':' ∉ hexDigits n := not_mem_hexDigits (by decide) n
  induction l with
  | nil => exact closes
  | cons n rest inductionHypothesis =>
      cases rest with
      | nil =>
          rw [hexGroups, List.map_singleton, List.intercalate_singleton]
          exact splitPair?_append_of_not_mem (noColon n) closes
      | cons next rest =>
          rw [hexGroups_cons_cons, List.append_assoc, List.cons_append]
          refine splitPair?_append_of_not_mem (noColon n) ?_
          -- The colon is followed by a digit of the next group.
          obtain ⟨c, later, begins, digit⟩ := hexGroups_eq_cons next rest
          rw [begins, List.cons_append] at inductionHypothesis ⊢
          rw [splitPair?, if_neg fun same => digit same.2, inductionHypothesis]
          rfl

/-! ## Eight groups -/

theorem mem_groups {bits : BitVec 128} {n : Nat} (member : n ∈ groups bits) : n < 65536 := by
  obtain ⟨shift, -, rfl⟩ := List.mem_map.1 member
  exact (bits.extractLsb' shift 16).isLt

theorem ofGroups_groups (bits : BitVec 128) : ofGroups (groups bits) = bits.toNat := by
  have whole := bits.isLt
  simp only [ofGroups, groups, List.map_cons, List.map_nil, List.foldl_cons, List.foldl_nil,
    BitVec.extractLsb'_toNat, Nat.shiftRight_eq_div_pow]
  omega

theorem readEight_hexGroups (eight : l.length = 8) (groups : ∀ n ∈ l, n < 65536) :
    readEight (hexGroups l) = some l := by
  have noPair : splitPair? ':' ':' (hexGroups l) = none := by
    simpa using splitPair?_hexGroups l (.inl rfl)
  have someGroup : l ≠ [] := by
    rintro rfl
    cases eight
  rw [readEight, noPair]
  simp only [splitOn_hexGroups someGroup, readGroups_map groups]
  simpa using eight

theorem replicate_zeroRun_append (l : List Nat) :
    List.replicate (zeroRun l) 0 ++ l.drop (zeroRun l) = l := by
  induction l with
  | nil => rfl
  | cons n rest inductionHypothesis =>
      by_cases zero : n = 0
      · have counted : zeroRun (n :: rest) = zeroRun rest + 1 := by simp [zeroRun, zero]
        rw [counted, List.replicate_succ, List.drop_succ_cons, List.cons_append,
          inductionHypothesis, zero]
      · have counted : zeroRun (n :: rest) = 0 := by simp [zeroRun, zero]
        rw [counted, List.replicate_zero, List.drop_zero, List.nil_append]

/-- The zeros that a text leaves out are put back. -/
theorem readEight_compressed (eight : l.length = 8) (groups : ∀ n ∈ l, n < 65536) :
    readEight (compressed l) = some l := by
  have split := replicate_zeroRun_append (l.drop (longestZeroRun l))
  rw [List.drop_drop] at split
  by_cases short : zeroRun (l.drop (longestZeroRun l)) < 2
  · rw [compressed, if_pos short]
    exact readEight_hexGroups eight groups
  · rw [compressed, if_neg short]
    generalize longestZeroRun l = start at *
    generalize zeroRun (l.drop start) = run at *
    have parted : splitPair? ':' ':'
        (hexGroups (l.take start) ++ ':' :: ':' :: hexGroups (l.drop (start + run))) =
          some (hexGroups (l.take start), hexGroups (l.drop (start + run))) :=
      splitPair?_append_pair (splitPair?_hexGroups _ (.inr rfl)) _
    have head : ((l.take start).map hexDigits).mapM readGroup = some (l.take start) :=
      mapM_map_eq_some fun n member => readGroup_hexDigits (groups n (List.mem_of_mem_take member))
    have tail : readGroups ((l.drop (start + run)).map hexDigits) = some (l.drop (start + run)) :=
      readGroups_map fun n member => groups n (List.mem_of_mem_drop member)
    have counted := congrArg List.length split
    simp only [List.length_drop, List.length_append, List.length_replicate, eight] at counted
    have atMost : (l.take start).length + (l.drop (start + run)).length ≤ 7 := by
      rw [List.length_take, List.length_drop, eight]
      omega
    have left : 8 - (l.take start).length - (l.drop (start + run)).length = run := by
      rw [List.length_take, List.length_drop, eight]
      omega
    rw [List.append_assoc, List.cons_append, List.cons_append, List.nil_append, readEight, parted]
    simp only [sideFields_hexGroups, head, tail]
    simp only [bind, Option.bind_some, if_pos atMost, left]
    rw [List.append_assoc, split, List.take_append_drop]

theorem not_mem_compressed (l : List Nat) : '.' ∉ compressed l := by
  have noPoint := not_mem_hexGroups (c := '.') (by decide) (by decide)
  by_cases short : zeroRun (l.drop (longestZeroRun l)) < 2
  · rw [compressed, if_pos short]
    exact noPoint l
  · rw [compressed, if_neg short]
    simp [noPoint]

/-! ## Either family -/

/-- Octets at the end are read as the last two groups. -/
theorem readEight_mapped (bits : BitVec 32) :
    readEight ("::ffff:".toList ++ dotted bits) =
      some (List.replicate 5 0 ++ [0xffff, bits.toNat / 65536, bits.toNat % 65536]) := by
  have text : "::ffff:".toList ++ dotted bits =
      ':' :: ':' :: ("ffff".toList ++ ':' :: dotted bits) := rfl
  have parted : splitPair? ':' ':' ("::ffff:".toList ++ dotted bits) =
      some ([], "ffff".toList ++ ':' :: dotted bits) := by
    rw [text, splitPair?, if_pos ⟨rfl, rfl⟩]
  have noColon : ':' ∉ dotted bits := by
    have digits (n : Nat) : ':' ∉ Nat.toDigits 10 n :=
      fun member => absurd (isDigit_of_mem_toDigits member) (by decide)
    simp [dotted, octets, digits, List.intercalate_cons_of_ne_nil]
  have fields : sideFields ("ffff".toList ++ ':' :: dotted bits) =
      ["ffff".toList, dotted bits] := by
    rw [sideFields, if_neg (by simp), splitOn_append_cons (by decide), splitOn_of_not_mem noColon]
  have group : readGroup "ffff".toList = some 0xffff := by decide
  rw [readEight, parted]
  simp only [fields, readGroups, readDotted_dotted, group]
  rfl

theorem toNat_mapped {bits : BitVec 128} (carried : bits.extractLsb' 32 96 = 0xffff#96) :
    0xffff * 4294967296 + (bits.extractLsb' 0 32).toNat = bits.toNat := by
  have high := congrArg BitVec.toNat carried
  have whole := bits.isLt
  simp only [BitVec.extractLsb'_toNat, Nat.shiftRight_eq_div_pow] at high ⊢
  simp only [BitVec.toNat_ofNat] at high
  omega

theorem readChars_toChars (a : Address) : readChars a.toChars = some a := by
  cases a with
  | v4 bits =>
      rw [toChars, readChars, readDotted_dotted]
      simp
  | v6 bits =>
      by_cases carried : bits.extractLsb' 32 96 = 0xffff#96
      · have noOctets : readDotted ("::ffff:".toList ++ dotted (bits.extractLsb' 0 32)) = none :=
          readDotted_colon _
        have total :
            ofGroups (List.replicate 5 0 ++ [0xffff, (bits.extractLsb' 0 32).toNat / 65536,
              (bits.extractLsb' 0 32).toNat % 65536]) = bits.toNat := by
          rw [← toNat_mapped carried]
          simp only [ofGroups, List.replicate, List.cons_append, List.nil_append,
            List.foldl_cons, List.foldl_nil]
          omega
        rw [toChars, if_pos carried, readChars, noOctets]
        simp only [readEight_mapped, Option.map_some, total]
        simp
      · have noOctets := readDotted_of_not_mem (not_mem_compressed (groups bits))
        have found := readEight_compressed (rfl : (groups bits).length = 8) fun _ => mem_groups
        rw [toChars, if_neg carried, readChars, noOctets]
        simp only [found, Option.map_some, ofGroups_groups]
        simp

/-- An address is read back from its text. -/
theorem ofText?_text (a : Address) : ofText? a.text = some a := by
  rw [ofText?, text, String.toList_ofList, readChars_toChars]

end DefaultGateway.Address
