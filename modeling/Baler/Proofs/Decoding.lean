import Baler.Text.Utf8

/-! Reading bytes as text. What was written reads back, and a byte of the first 128 stands for its character in any
surroundings: the damage before it ends at it, and the rest is read as if nothing stood before. -/
namespace Baler.Text.Utf8

theorem low_of_start {b : UInt8} {p : Begun} (h : start b = .inr p) : 0x80 ≤ p.low := by
  unfold start at h
  dsimp only at h
  repeat' split at h
  all_goals cases h
  all_goals simp

theorem start_ascii {b : UInt8} (h : b.toNat < 0x80) : start b = .inl (.char (Char.ofNat b.toNat)) := by
  simp [start,h]

/-- A byte of the first 128 ends what has begun. -/
theorem scan_ascii {b : UInt8} (h : b.toNat < 0x80) (rest : List UInt8) (begun : Option Begun)
    (low : ∀ p ∈ begun, 0x80 ≤ p.low) :
    scan begun (b :: rest) = scan begun [] ++ .char (Char.ofNat b.toNat) :: scan none rest := by
  cases begun with
  | none => simp [scan,start_ascii h]
  | some p =>
    have outside : ¬ (p.low ≤ b.toNat ∧ b.toNat ≤ p.high) := by
      have := low p rfl
      omega
    simp [scan,start_ascii h,outside]

theorem scan_cut {b : UInt8} (h : b.toNat < 0x80) (before rest : List UInt8) (begun : Option Begun)
    (low : ∀ p ∈ begun, 0x80 ≤ p.low) :
    scan begun (before ++ b :: rest) = scan begun before ++ .char (Char.ofNat b.toNat) :: scan none rest := by
  -- a byte is read between characters or after what has begun, and leaves one of these again
  induction before generalizing begun with
  | nil => exact scan_ascii h rest begun low
  | cons a before ih =>
    have afresh := ih none nofun
    have after : ∀ p, start a = .inr p → scan (some p) (before ++ b :: rest) =
        scan (some p) before ++ .char (Char.ofNat b.toNat) :: scan none rest := by
      intro p hp
      apply ih
      intro q hq
      obtain rfl := Option.some.inj hq
      exact low_of_start hp
    cases begun with
    | none =>
      simp only [List.cons_append,scan]
      cases hs : start a with
      | inl piece => simp [afresh]
      | inr p => exact after p hs
    | some p =>
      simp only [List.cons_append,scan]
      split
      · cases p.owed with
        | zero => simp [afresh]
        | succ owed =>
          apply ih
          intro q hq
          obtain rfl := Option.some.inj hq
          exact Nat.le_refl _
      · cases hs : start a with
        | inl piece => simp [afresh]
        | inr q => simp [after q hs]

/-- A byte of the first 128 cuts a byte string: what is before it and what is after it are read by themselves. -/
theorem decodeLossy_cut {b : UInt8} (h : b.toNat < 0x80) (before rest : List UInt8) :
    decodeLossy (before ++ b :: rest) = decodeLossy before ++ Char.ofNat b.toNat :: decodeLossy rest := by
  simp [decodeLossy,scan_cut h before rest none nofun,Piece.shown]

/-- A run of such bytes is read as its characters. -/
theorem decodeLossy_run {run : List UInt8} (ascii : ∀ b ∈ run, b.toNat < 0x80) (some : run ≠ [])
    (before rest : List UInt8) : decodeLossy (before ++ run ++ rest) =
      decodeLossy before ++ run.map (fun b => Char.ofNat b.toNat) ++ decodeLossy rest := by
  have alone : ∀ rest : List UInt8, decodeLossy (run ++ rest) =
      run.map (fun b => Char.ofNat b.toNat) ++ decodeLossy rest := by
    clear some
    induction run with
    | nil => exact fun rest => rfl
    | cons b run ih =>
      obtain ⟨head,tail⟩ := List.forall_mem_cons.mp ascii
      intro rest
      have := decodeLossy_cut head [] (run ++ rest)
      simpa [ih tail rest] using this
  obtain ⟨b,run,rfl⟩ := List.exists_cons_of_ne_nil some
  obtain ⟨head,tail⟩ := List.forall_mem_cons.mp ascii
  have split : before ++ (b :: run) ++ rest = before ++ b :: (run ++ rest) := by simp
  rw [split,decodeLossy_cut head]
  have whole := alone rest
  have first := decodeLossy_cut head [] (run ++ rest)
  simp only [List.nil_append,decodeLossy_nil,List.cons_append] at first whole
  rw [List.append_assoc,← whole,first]

theorem toNat_byte {n : Nat} (h : n < 256) : n.toUInt8.toNat = n := by
  simp [Nat.toUInt8,Nat.mod_eq_of_lt h]

/-- A byte in its range takes its six bits to what has begun. -/
theorem scan_tail {owed low high value n : Nat} (least : low ≤ 0x80 + n % 0x40) (most : 0x80 + n % 0x40 ≤ high)
    (rest : List UInt8) : scan (some ⟨owed,low,high,value⟩) ((0x80 + n % 0x40).toUInt8 :: rest) =
      match owed with
      | 0 => .char (Char.ofNat (value * 0x40 + n % 0x40)) :: scan none rest
      | owed + 1 => scan (some ⟨owed,0x80,0xbf,value * 0x40 + n % 0x40⟩) rest := by
  have byte : (0x80 + n % 0x40).toUInt8.toNat = 0x80 + n % 0x40 := toNat_byte (by omega)
  have bits : (0x80 + n % 0x40) % 0x40 = n % 0x40 := by omega
  cases owed <;> simp only [scan,byte,least,most,and_self,if_true,bits]

theorem start_two {n : Nat} (least : 0x80 ≤ n) (most : n < 0x800) :
    start (0xc0 + n / 0x40).toUInt8 = .inr ⟨0,0x80,0xbf,n / 0x40⟩ := by
  have byte : (0xc0 + n / 0x40).toUInt8.toNat = 0xc0 + n / 0x40 := toNat_byte (by omega)
  simp only [start,byte]
  rw [if_neg (by omega),if_pos (by omega),Nat.add_sub_cancel_left]

/-- The first of three bytes narrows the range of the second, so that nothing that fits two bytes and no surrogate is
read. -/
theorem start_three {n : Nat} (least : 0x800 ≤ n) (most : n < 0x10000) (valid : n < 0xd800 ∨ 0xdfff < n) :
    ∃ low high, start (0xe0 + n / 0x1000).toUInt8 = .inr ⟨1,low,high,n / 0x1000⟩ ∧
      low ≤ 0x80 + n / 0x40 % 0x40 ∧ 0x80 + n / 0x40 % 0x40 ≤ high := by
  have byte : (0xe0 + n / 0x1000).toUInt8.toNat = 0xe0 + n / 0x1000 := toNat_byte (by omega)
  simp only [start,byte,Nat.add_sub_cancel_left]
  rw [if_neg (by omega),if_neg (by omega)]
  split
  · have : n / 0x1000 = 0 := by omega
    exact ⟨0xa0,0xbf,by rw [this],by omega,by omega⟩
  split
  · have : n / 0x1000 = 0xd := by omega
    exact ⟨0x80,0x9f,by rw [this],by omega,by omega⟩
  · rw [if_pos (by omega)]
    exact ⟨0x80,0xbf,rfl,by omega,by omega⟩

/-- The first of four bytes narrows the range of the second, so that nothing shorter or too large is read. -/
theorem start_four {n : Nat} (least : 0x10000 ≤ n) (most : n < 0x110000) :
    ∃ low high, start (0xf0 + n / 0x40000).toUInt8 = .inr ⟨2,low,high,n / 0x40000⟩ ∧
      low ≤ 0x80 + n / 0x1000 % 0x40 ∧ 0x80 + n / 0x1000 % 0x40 ≤ high := by
  have byte : (0xf0 + n / 0x40000).toUInt8.toNat = 0xf0 + n / 0x40000 := toNat_byte (by omega)
  simp only [start,byte,Nat.add_sub_cancel_left]
  rw [if_neg (by omega),if_neg (by omega),if_neg (by omega),if_neg (by omega),if_neg (by omega)]
  split
  · have : n / 0x40000 = 0 := by omega
    exact ⟨0x90,0xbf,by rw [this],by omega,by omega⟩
  split
  · exact ⟨0x80,0xbf,rfl,by omega,by omega⟩
  · have : n / 0x40000 = 4 := by omega
    rw [if_pos (by omega)]
    exact ⟨0x80,0x8f,by rw [this],by omega,by omega⟩

theorem scan_encodeChar (c : Char) (rest : List UInt8) :
    scan none (encodeChar c ++ rest) = .char c :: scan none rest := by
  have valid : c.toNat < 0xd800 ∨ 0xdfff < c.toNat ∧ c.toNat < 0x110000 := c.valid
  have itself : Char.ofNat c.toNat = c := Char.ofNat_toNat c
  unfold encodeChar
  generalize c.toNat = n at valid itself
  dsimp only
  split
  · rename_i one
    have byte : n.toUInt8.toNat = n := toNat_byte (by omega)
    simp [scan,start,byte,one,itself]
  split
  · rename_i two
    have whole : n / 0x40 * 0x40 + n % 0x40 = n := by omega
    simp only [List.cons_append,List.nil_append]
    rw [scan,start_two (by omega) two]
    dsimp only
    rw [scan_tail (by omega) (by omega)]
    simp only [whole,itself]
  split
  · rename_i three
    obtain ⟨low,high,begins,least,most⟩ := start_three (n := n) (by omega) three (by omega)
    have whole : (n / 0x1000 * 0x40 + n / 0x40 % 0x40) * 0x40 + n % 0x40 = n := by omega
    simp only [List.cons_append,List.nil_append]
    rw [scan,begins]
    dsimp only
    rw [scan_tail least most]
    dsimp only
    rw [scan_tail (by omega) (by omega)]
    simp only [whole,itself]
  · rename_i four
    obtain ⟨low,high,begins,least,most⟩ := start_four (n := n) (by omega) (by omega)
    have whole : ((n / 0x40000 * 0x40 + n / 0x1000 % 0x40) * 0x40 + n / 0x40 % 0x40) * 0x40 + n % 0x40 = n := by
      omega
    simp only [List.cons_append,List.nil_append]
    rw [scan,begins]
    dsimp only
    rw [scan_tail least most]
    dsimp only
    rw [scan_tail (by omega) (by omega)]
    dsimp only
    rw [scan_tail (by omega) (by omega)]
    simp only [whole,itself]

/-- What was written reads back. -/
theorem scan_encode (cs : List Char) : scan none (encode cs) = cs.map .char := by
  induction cs with
  | nil => rfl
  | cons c cs ih => rw [encode_cons,scan_encodeChar,ih,List.map_cons]

theorem decode?_encode (cs : List Char) : decode? (encode cs) = some cs := by
  rw [decode?,scan_encode]
  induction cs with
  | nil => rfl
  | cons c cs ih => simp [List.mapM_cons,Piece.char?,ih]

/-- Bytes without damage are read the same when damage is tolerated. -/
theorem decodeLossy_of_decode? {bytes : List UInt8} {text : List Char} (h : decode? bytes = some text) :
    decodeLossy bytes = text := by
  unfold decode? at h
  unfold decodeLossy
  generalize scan none bytes = pieces at h ⊢
  induction pieces generalizing text with
  | nil => simpa using h
  | cons piece pieces ih =>
    cases piece with
    | damaged => simp [Piece.char?] at h
    | char c =>
      simp only [List.mapM_cons,Piece.char?,Option.pure_def,Option.bind_eq_bind,Option.bind_some,
        Option.bind_eq_some_iff,Option.some.injEq] at h
      obtain ⟨tail,rest,rfl⟩ := h
      simp [Piece.shown,ih rest]

end Baler.Text.Utf8
