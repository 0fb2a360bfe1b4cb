import LanternProject.Mqtt.MQTTPacket

/-! # UTF-8

`MQTT_UTF8_validate` checks a topic before it is sent: it goes from character to character, comparing
the bytes of each with the rows of a table of ranges. The bytes and the limits in the table are
`char`, which are signed here.

The strings it accepts are the encodings of sequences of characters, and no others. -/

namespace LanternProject.Mqtt.Utf8

open LanternProject.Mqtt.MQTTPacket

/-- A byte as a `char`. -/
def toChar (b : UInt8) : ℤ := if b.toNat < 128 then b.toNat else b.toNat - 256

/-- The limits of the bytes of a character, by its first byte. -/
def valid_ranges : List (List (UInt8 × UInt8)) :=
  [[(0x00, 0x7F)],
    [(0xC2, 0xDF), (0x80, 0xBF)],
    [(0xE0, 0xE0), (0xA0, 0xBF), (0x80, 0xBF)],
    [(0xE1, 0xEC), (0x80, 0xBF), (0x80, 0xBF)],
    [(0xED, 0xED), (0x80, 0x9F), (0x80, 0xBF)],
    [(0xEE, 0xEF), (0x80, 0xBF), (0x80, 0xBF)],
    [(0xF0, 0xF0), (0x90, 0xBF), (0x80, 0xBF), (0x80, 0xBF)],
    [(0xF1, 0xF3), (0x80, 0xBF), (0x80, 0xBF), (0x80, 0xBF)],
    [(0xF4, 0xF4), (0x80, 0x8F), (0x80, 0xBF), (0x80, 0xBF)]]

/-- The number of bytes of a character. -/
def charlen (c : UInt8) : ℕ :=
  if c &&& 128 = 0 then 1
  else if c &&& 0xF0 = 0xF0 then 4
  else if c &&& 0xE0 = 0xE0 then 3
  else 2

/-- The bytes are within the limits of a row. -/
def matchesRow : List (UInt8 × UInt8) → Bytes → Bool
  | [], _ => true
  | _, [] => false
  | (lower, upper) :: row, b :: data =>
    if toChar b < toChar lower ∨ toChar b > toChar upper then false else matchesRow row data

/-- What comes after the first character, if there is one. -/
def UTF8_char_validate (data : Bytes) : Option Bytes :=
  match data with
  | [] => none
  | c :: _ =>
    if data.length < charlen c then none
    else if valid_ranges.any fun row => row.length == charlen c && matchesRow row data then
      some (data.drop (charlen c))
    else none

theorem charlen_pos (c : UInt8) : 0 < charlen c := by
  unfold charlen
  split_ifs <;> decide

theorem validate_shorter {data rest : Bytes} (h : UTF8_char_validate data = some rest) :
    rest.length < data.length := by
  unfold UTF8_char_validate at h
  split at h
  · cases h
  · rename_i c _
    split_ifs at h with hlen
    obtain rfl := Option.some.inj h
    have hpos := charlen_pos c
    rw [List.length_drop]
    omega

/-- The loop of `MQTT_UTF8_validate`. -/
def validateLoop (data : Bytes) : Bool :=
  match _h : UTF8_char_validate data with
  | none => false
  | some [] => true
  | some (c :: rest) => validateLoop (c :: rest)
termination_by data.length
decreasing_by exact validate_shorter _h

def MQTT_UTF8_validate (data : Bytes) : Bool :=
  if data.length = 0 then true else validateLoop data

def MQTT_UTF8_validateString (string : Bytes) : Bool := MQTT_UTF8_validate (cString string)

/-! ### One character -/

theorem charlen_eq (c : UInt8) : charlen c =
    if c.toNat < 128 then 1 else if c.toNat < 224 then 2 else if c.toNat < 240 then 3 else 4 := by
  have key : ∀ n < 256, charlen (UInt8.ofNat n) =
      if n < 128 then 1 else if n < 224 then 2 else if n < 240 then 3 else 4 := by
    decide +kernel
  have h := key c.toNat c.toNat_lt
  rwa [UInt8.ofNat_toNat] at h

/-- A byte within limits on one side of 128. -/
theorem inRange_iff {b lower upper : UInt8} (h : lower.toNat < 128 ↔ upper.toNat < 128) :
    ¬ (toChar b < toChar lower ∨ toChar b > toChar upper) ↔
      lower.toNat ≤ b.toNat ∧ b.toNat ≤ upper.toNat := by
  have hb := b.toNat_lt
  have hl := lower.toNat_lt
  have hu := upper.toNat_lt
  unfold toChar
  split_ifs <;> omega

/-- The limits of a row, as numbers. -/
theorem matchesRow_cons {lower upper b : UInt8} {row : List (UInt8 × UInt8)} {data : Bytes}
    (h : lower.toNat < 128 ↔ upper.toNat < 128) :
    matchesRow ((lower, upper) :: row) (b :: data) = true ↔
      (lower.toNat ≤ b.toNat ∧ b.toNat ≤ upper.toNat) ∧ matchesRow row data = true := by
  rw [matchesRow, ← inRange_iff h]
  split_ifs with hb
  · simp [hb]
  · simp [hb]

/-- A continuation byte. -/
def Continues (b : UInt8) : Prop := 0x80 ≤ b.toNat ∧ b.toNat ≤ 0xBF

theorem matchesRow_nil (data : Bytes) : matchesRow [] data = true := by
  rw [matchesRow]

/-- One byte. -/
theorem any_one {a : UInt8} {data : Bytes} :
    valid_ranges.any (fun row => row.length == 1 && matchesRow row (a :: data)) = true ↔
      a.toNat < 0x80 := by
  simp only [valid_ranges, List.any_cons, List.any_nil, List.length_cons, List.length_nil,
    Nat.reduceAdd, Nat.reduceBEq, Bool.true_and, Bool.false_and, Bool.or_false]
  rw [matchesRow_cons (by decide), matchesRow_nil]
  simp
  omega

/-- Two bytes. -/
theorem any_two {a b : UInt8} {data : Bytes} :
    valid_ranges.any (fun row => row.length == 2 && matchesRow row (a :: b :: data)) = true ↔
      0xC2 ≤ a.toNat ∧ a.toNat ≤ 0xDF ∧ Continues b := by
  simp only [valid_ranges, List.any_cons, List.any_nil, List.length_cons, List.length_nil,
    Nat.reduceAdd, Nat.reduceBEq, Bool.true_and, Bool.false_and, Bool.or_false, Bool.false_or]
  rw [matchesRow_cons (by decide), matchesRow_cons (by decide), matchesRow_nil]
  simp [Continues, and_assoc]

/-- Three bytes. -/
theorem any_three {a b c : UInt8} {data : Bytes} :
    valid_ranges.any (fun row => row.length == 3 && matchesRow row (a :: b :: c :: data)) = true ↔
      0xE0 ≤ a.toNat ∧ a.toNat ≤ 0xEF ∧ Continues b ∧ Continues c ∧
        (a.toNat = 0xE0 → 0xA0 ≤ b.toNat) ∧ (a.toNat = 0xED → b.toNat ≤ 0x9F) := by
  simp only [valid_ranges, List.any_cons, List.any_nil, List.length_cons, List.length_nil,
    Nat.reduceAdd, Nat.reduceBEq, Bool.true_and, Bool.false_and, Bool.or_false, Bool.false_or,
    Bool.or_eq_true]
  repeat rw [matchesRow_cons (by decide)]
  simp only [matchesRow_nil, Continues]
  simp
  omega

/-- Four bytes. -/
theorem any_four {a b c d : UInt8} {data : Bytes} :
    valid_ranges.any (fun row => row.length == 4 && matchesRow row (a :: b :: c :: d :: data)) = true ↔
      0xF0 ≤ a.toNat ∧ a.toNat ≤ 0xF4 ∧ Continues b ∧ Continues c ∧ Continues d ∧
        (a.toNat = 0xF0 → 0x90 ≤ b.toNat) ∧ (a.toNat = 0xF4 → b.toNat ≤ 0x8F) := by
  simp only [valid_ranges, List.any_cons, List.any_nil, List.length_cons, List.length_nil,
    Nat.reduceAdd, Nat.reduceBEq, Bool.true_and, Bool.false_and, Bool.or_false, Bool.false_or,
    Bool.or_eq_true]
  repeat rw [matchesRow_cons (by decide)]
  simp only [matchesRow_nil, Continues]
  simp
  omega

/-- **The first characters that are accepted**, by their length. -/
theorem validate_iff {data rest : Bytes} : UTF8_char_validate data = some rest ↔
    (∃ a, data = a :: rest ∧ a.toNat < 0x80) ∨
    (∃ a b, data = a :: b :: rest ∧ 0xC2 ≤ a.toNat ∧ a.toNat ≤ 0xDF ∧ Continues b) ∨
    (∃ a b c, data = a :: b :: c :: rest ∧ 0xE0 ≤ a.toNat ∧ a.toNat ≤ 0xEF ∧ Continues b ∧
      Continues c ∧ (a.toNat = 0xE0 → 0xA0 ≤ b.toNat) ∧ (a.toNat = 0xED → b.toNat ≤ 0x9F)) ∨
    ∃ a b c d, data = a :: b :: c :: d :: rest ∧ 0xF0 ≤ a.toNat ∧ a.toNat ≤ 0xF4 ∧ Continues b ∧
      Continues c ∧ Continues d ∧ (a.toNat = 0xF0 → 0x90 ≤ b.toNat) ∧
      (a.toNat = 0xF4 → b.toNat ≤ 0x8F) := by
  constructor
  · intro h
    rcases data with _ | ⟨a, data⟩
    · cases h
    · rw [UTF8_char_validate] at h
      split_ifs at h with hlen hany
      obtain rfl := Option.some.inj h
      have hn := charlen_eq a
      split_ifs at hn with h1 h2 h3
      · exact Or.inl ⟨a, by simp [hn], h1⟩
      · obtain ⟨b, data, rfl⟩ := List.exists_cons_of_length_pos (l := data) (by
          rw [hn, List.length_cons] at hlen
          omega)
        rw [hn] at hany ⊢
        exact Or.inr (Or.inl ⟨a, b, rfl, any_two.mp hany⟩)
      · rw [hn] at hany hlen ⊢
        match data, hlen with
        | [], hlen => exact absurd (by simp) hlen
        | [_], hlen => exact absurd (by simp) hlen
        | b :: c :: data, _ =>
          exact Or.inr (Or.inr (Or.inl ⟨a, b, c, rfl, any_three.mp hany⟩))
      · rw [hn] at hany hlen ⊢
        match data, hlen with
        | [], hlen => exact absurd (by simp) hlen
        | [_], hlen => exact absurd (by simp) hlen
        | [_, _], hlen => exact absurd (by simp) hlen
        | b :: c :: d :: data, _ =>
          exact Or.inr (Or.inr (Or.inr ⟨a, b, c, d, rfl, any_four.mp hany⟩))
  · rintro (⟨a, rfl, ha⟩ | ⟨a, b, rfl, ha⟩ | ⟨a, b, c, rfl, ha⟩ | ⟨a, b, c, d, rfl, ha⟩)
    · have hn : charlen a = 1 := by
        rw [charlen_eq, if_pos (by omega)]
      rw [UTF8_char_validate, hn, if_neg (by simp), if_pos (any_one.mpr ha)]
      rfl
    · have hn : charlen a = 2 := by
        rw [charlen_eq, if_neg (by omega), if_pos (by omega)]
      rw [UTF8_char_validate, hn, if_neg (by simp), if_pos (any_two.mpr ha)]
      rfl
    · have hn : charlen a = 3 := by
        rw [charlen_eq, if_neg (by omega), if_neg (by omega), if_pos (by omega)]
      rw [UTF8_char_validate, hn, if_neg (by simp), if_pos (any_three.mpr ha)]
      rfl
    · have hn : charlen a = 4 := by
        rw [charlen_eq, if_neg (by omega), if_neg (by omega), if_neg (by omega)]
      rw [UTF8_char_validate, hn, if_neg (by simp), if_pos (any_four.mpr ha)]
      rfl

/-! ### Characters -/

/-- The character with a number. -/
theorem exists_char {n : ℕ} (h : n.isValidChar) : ∃ c : Char, c.val.toNat = n := by
  refine ⟨Char.ofNatAux n h, ?_⟩
  exact rfl

/-- A byte is determined by its number. -/
theorem ofNat_eq {n : ℕ} {b : UInt8} (h : n = b.toNat) : UInt8.ofNat n = b := by
  rw [h, UInt8.ofNat_toNat]

/-- **The first character is a character.** -/
theorem validate_iff_char {data rest : Bytes} : UTF8_char_validate data = some rest ↔
    ∃ c : Char, data = String.utf8EncodeChar c ++ rest := by
  rw [validate_iff]
  constructor
  · rintro (⟨a, rfl, ha⟩ | ⟨a, b, rfl, ha⟩ | ⟨a, b, c, rfl, ha⟩ | ⟨a, b, c, d, rfl, ha⟩)
    · obtain ⟨ch, hch⟩ := exists_char (n := a.toNat) (Or.inl (by omega))
      refine ⟨ch, ?_⟩
      simp only [String.utf8EncodeChar, hch]
      rw [if_pos (by omega), ofNat_eq rfl]
      rfl
    · obtain ⟨ha, ha', hb, hb'⟩ := ha
      obtain ⟨ch, hch⟩ := exists_char (n := (a.toNat - 0xC0) * 64 + (b.toNat - 0x80))
        (Or.inl (by omega))
      refine ⟨ch, ?_⟩
      simp only [String.utf8EncodeChar, hch]
      rw [if_neg (by omega), if_pos (by omega), ofNat_eq (b := a), ofNat_eq (b := b)]
      · rfl
      all_goals omega
    · obtain ⟨ha, ha', ⟨hb, hb'⟩, ⟨hc, hc'⟩, hE0, hED⟩ := ha
      obtain ⟨ch, hch⟩ := exists_char
        (n := (a.toNat - 0xE0) * 4096 + (b.toNat - 0x80) * 64 + (c.toNat - 0x80)) (by
          unfold Nat.isValidChar
          omega)
      refine ⟨ch, ?_⟩
      simp only [String.utf8EncodeChar, hch]
      rw [if_neg (by omega), if_neg (by omega), if_pos (by omega), ofNat_eq (b := a),
        ofNat_eq (b := b), ofNat_eq (b := c)]
      · rfl
      all_goals omega
    · obtain ⟨ha, ha', ⟨hb, hb'⟩, ⟨hc, hc'⟩, ⟨hd, hd'⟩, hF0, hF4⟩ := ha
      obtain ⟨ch, hch⟩ := exists_char (n := (a.toNat - 0xF0) * 262144 + (b.toNat - 0x80) * 4096
        + (c.toNat - 0x80) * 64 + (d.toNat - 0x80)) (by
          unfold Nat.isValidChar
          omega)
      refine ⟨ch, ?_⟩
      simp only [String.utf8EncodeChar, hch]
      rw [if_neg (by omega), if_neg (by omega), if_neg (by omega), ofNat_eq (b := a),
        ofNat_eq (b := b), ofNat_eq (b := c), ofNat_eq (b := d)]
      · rfl
      all_goals omega
  · rintro ⟨ch, rfl⟩
    have hvalid : ch.val.toNat < 0xD800 ∨ 0xDFFF < ch.val.toNat ∧ ch.val.toNat < 0x110000 := ch.valid
    have hbyte : ∀ n < 256, (UInt8.ofNat n).toNat = n := by
      intro n hn
      rw [UInt8.toNat_ofNat']
      omega
    simp only [String.utf8EncodeChar]
    split_ifs with h1 h2 h3
    · refine Or.inl ⟨_, rfl, ?_⟩
      rw [hbyte _ (by omega)]
      omega
    · refine Or.inr (Or.inl ⟨_, _, rfl, ?_⟩)
      rw [Continues, hbyte _ (by omega), hbyte _ (by omega)]
      omega
    · refine Or.inr (Or.inr (Or.inl ⟨_, _, _, rfl, ?_⟩))
      rw [Continues, Continues, hbyte _ (by omega), hbyte _ (by omega), hbyte _ (by omega)]
      omega
    · refine Or.inr (Or.inr (Or.inr ⟨_, _, _, _, rfl, ?_⟩))
      rw [Continues, Continues, Continues, hbyte _ (by omega), hbyte _ (by omega), hbyte _ (by omega),
        hbyte _ (by omega)]
      omega

/-! ### Strings -/

theorem validate_flatMap (c : Char) (cs : List Char) :
    UTF8_char_validate ((c :: cs).flatMap String.utf8EncodeChar)
      = some (cs.flatMap String.utf8EncodeChar) :=
  validate_iff_char.mpr ⟨c, List.flatMap_cons⟩

/-- The loop accepts one character after the other. -/
theorem validateLoop_iff (data : Bytes) : validateLoop data = true ↔
    ∃ (c : Char) (cs : List Char), data = (c :: cs).flatMap String.utf8EncodeChar := by
  -- along the calls of the loop: no character, the last one, one of several
  induction data using validateLoop.induct with
  | case1 data h =>
    have hloop : validateLoop data = false := by
      unfold validateLoop
      split <;> simp_all
    rw [hloop]
    simp only [Bool.false_eq_true, false_iff, not_exists]
    rintro c cs rfl
    rw [validate_flatMap] at h
    cases h
  | case2 data h =>
    have hloop : validateLoop data = true := by
      unfold validateLoop
      split <;> simp_all
    obtain ⟨c, hc⟩ := validate_iff_char.mp h
    exact iff_of_true hloop ⟨c, [], by simpa using hc⟩
  | case3 data b rest h ih =>
    have hloop : validateLoop data = validateLoop (b :: rest) := by
      conv_lhs => unfold validateLoop
      split <;> simp_all
    rw [hloop, ih]
    constructor
    · rintro ⟨c, cs, hcs⟩
      obtain ⟨c', hc'⟩ := validate_iff_char.mp h
      exact ⟨c', c :: cs, by rw [hc', hcs]; rfl⟩
    · rintro ⟨c, cs, rfl⟩
      rw [validate_flatMap] at h
      rcases cs with _ | ⟨c', cs⟩
      · simp at h
      · exact ⟨c', cs, (Option.some.inj h).symm⟩

/-- **The topics that are accepted** are the UTF-8 encodings of sequences of characters. -/
theorem validate_iff_utf8 (data : Bytes) : MQTT_UTF8_validate data = true ↔
    ∃ cs : List Char, data = cs.flatMap String.utf8EncodeChar := by
  unfold MQTT_UTF8_validate
  split_ifs with hlen
  · obtain rfl := List.eq_nil_of_length_eq_zero hlen
    exact iff_of_true rfl ⟨[], rfl⟩
  · rw [validateLoop_iff]
    constructor
    · rintro ⟨c, cs, h⟩
      exact ⟨c :: cs, h⟩
    · rintro ⟨cs, rfl⟩
      rcases cs with _ | ⟨c, cs⟩
      · exact absurd rfl hlen
      · exact ⟨c, cs, rfl⟩

end LanternProject.Mqtt.Utf8
