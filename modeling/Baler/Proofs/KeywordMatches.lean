import Baler.Proofs.Classification
import Baler.Proofs.Decoding
import Baler.Proofs.WordCase
import Baler.Strategy.Keyword

/-! Which messages a keyword fails. No bytes around a keyword of the first 128 characters hide it, in any case of its
letters. A keyword is found wherever a text has it as it was given exactly if its lower case does not depend on what
stands next to it. -/
namespace Baler

open Text Settlement

/-- Whether an outcome counts a delivery of its batch as failed. -/
def Outcome.fails (id : Int) : Outcome → Prop
  | .success => False
  | .partialFailure failed _ => id ∈ failed
  | .totalFailure => True

theorem Outcome.Classifies.fails_iff {batch : List Handle} {failed : List Int} {o : Outcome}
    (h : o.Classifies batch failed) {id : Int} (hid : id ∈ ids batch) : o.fails id ↔ id ∈ failed := by
  have processed := h.processes id hid
  cases o with
  | success => simpa [fails,Answer.processes] using processed
  | totalFailure => simpa [fails,Answer.processes] using processed
  | partialFailure named strays =>
    obtain ⟨rfl,-⟩ := h.splits
    simpa [fails,Answer.processes] using processed

namespace Keyword

theorem occurs_iff (needle hay : List Char) : occurs needle hay = true ↔ needle <:+: hay := by
  induction hay with
  | nil => simp [occurs]
  | cons c hay ih => rw [occurs,Bool.or_eq_true,List.isPrefixOf_iff_prefix,ih,List.infix_cons_iff]

theorem make?_of_ne_empty {s : String} (some : s ≠ "") :
    make? s = .ok (ofChars s.toList (mt String.toList_eq_nil_iff.mp some)) := dif_neg _

section

variable {k : Keyword} {batch : List Handle} {h : Handle}

theorem fails_of_occurrence (member : h ∈ batch) (inside : k.chars <:+: lowerChars (Utf8.decodeLossy h.payload)) :
    (k.judge batch).fails h.id := by
  have hit : k.hits h.payload = true := (occurs_iff _ _).mpr inside
  have named : h.id ∈ k.failedIds batch := List.mem_map_of_mem (List.mem_filter.mpr ⟨member,hit⟩)
  have listed : h.id ∈ ids batch := List.mem_map_of_mem member
  exact ((Outcome.classifies_ofFailures batch _).fails_iff listed).mpr named

theorem occurrence_of_fails (fails : (k.judge [h]).fails h.id) :
    k.chars <:+: lowerChars (Utf8.decodeLossy h.payload) := by
  have named := ((Outcome.classifies_ofFailures [h] _).fails_iff (by simp [ids])).mp fails
  obtain ⟨x,hx,-⟩ := List.mem_map.mp named
  obtain ⟨only,hit⟩ := List.mem_filter.mp hx
  obtain rfl := List.mem_singleton.mp only
  exact (occurs_iff _ _).mp hit

end

/-- A byte with its bit of the case set if it stands for a capital letter. -/
def lowerByte (b : UInt8) : UInt8 := if 0x41 ≤ b.toNat ∧ b.toNat ≤ 0x5a then b + 0x20 else b

theorem toNat_lowerByte (b : UInt8) :
    (lowerByte b).toNat = if 0x41 ≤ b.toNat ∧ b.toNat ≤ 0x5a then b.toNat + 0x20 else b.toNat := by
  unfold lowerByte
  split
  · rename_i capital
    rw [UInt8.toNat_add]
    exact Nat.mod_eq_of_lt (by simp; omega)
  · rfl

theorem toNat_of_byte {n : Nat} (ascii : n < 0x80) : (Char.ofNat n).toNat = n := by
  have table : ∀ n : Fin 0x80, (Char.ofNat n).toNat = n := by decide +kernel
  exact table ⟨n,ascii⟩

theorem toLower_of_byte {n : Nat} (ascii : n < 0x80) :
    (Char.ofNat n).toLower = Char.ofNat (if 0x41 ≤ n ∧ n ≤ 0x5a then n + 0x20 else n) := by
  have table : ∀ n : Fin 0x80, (Char.ofNat n).toLower =
      Char.ofNat (if 0x41 ≤ n.val ∧ n.val ≤ 0x5a then n.val + 0x20 else n.val) := by decide +kernel
  exact table ⟨n,ascii⟩

/-- Bytes that spell a word of the first 128 characters in some case of its letters. -/
theorem lower_of_spelling {run : List UInt8} {word : List Char} (ascii : ∀ c ∈ word, c.toNat < 0x80)
    (same : run.map lowerByte = (Utf8.encode word).map lowerByte) :
    (∀ b ∈ run, b.toNat < 0x80) ∧
      (run.map fun b => Char.ofNat b.toNat).map Char.toLower = word.map Char.toLower := by
  induction word generalizing run with
  | nil =>
    obtain rfl : run = [] := by simpa using same
    exact ⟨nofun,rfl⟩
  | cons c word ih =>
    obtain ⟨head,tail⟩ := List.forall_mem_cons.mp ascii
    have one : Utf8.encodeChar c = [c.toNat.toUInt8] := by simp [Utf8.encodeChar,head]
    have value : c.toNat.toUInt8.toNat = c.toNat := Utf8.toNat_byte (by omega)
    rw [Utf8.encode_cons,one,List.singleton_append,List.map_cons] at same
    obtain ⟨b,run,rfl,first,rest⟩ := List.map_eq_cons_iff.mp same
    obtain ⟨low,lower⟩ := ih tail rest
    have bytes := congrArg UInt8.toNat first
    rw [toNat_lowerByte,toNat_lowerByte,value] at bytes
    have small : b.toNat < 0x80 := by
      split at bytes <;> split at bytes <;> omega
    refine ⟨List.forall_mem_cons.mpr ⟨small,low⟩,?_⟩
    have letter : (Char.ofNat b.toNat).toLower = c.toLower := by
      rw [toLower_of_byte small,bytes,← toLower_of_byte head,Char.ofNat_toNat]
    rw [List.map_cons,List.map_cons,List.map_cons,letter,lower]

/-- A message fails if its payload has a run of bytes that spell a keyword of the first 128 characters, in any case of
its letters and whatever the bytes around the run are. -/
theorem fails_of_spelling {s : String} (some : s ≠ "") (ascii : ∀ c ∈ s.toList, c.toNat < 0x80) {batch : List Handle}
    {h : Handle} (member : h ∈ batch) {run : List UInt8} (inside : run <:+: h.payload)
    (same : run.map lowerByte = (Utf8.ofString s).map lowerByte) :
    ∃ k, make? s = .ok k ∧ (k.judge batch).fails h.id := by
  refine ⟨_,make?_of_ne_empty some,fails_of_occurrence member ?_⟩
  obtain ⟨low,lower⟩ := lower_of_spelling ascii same
  have filled : run ≠ [] := by
    rintro rfl
    have : s.toList = [] := by simpa using lower.symm
    exact some (by simpa using this)
  have plain : ∀ c ∈ run.map (fun b => Char.ofNat b.toNat), c.toNat < 0x80 := by
    intro c hc
    obtain ⟨b,hb,rfl⟩ := List.mem_map.mp hc
    rw [toNat_of_byte (low b hb)]
    exact low b hb
  obtain ⟨before,after,whole⟩ := inside
  -- the run is read by itself, and nothing around it changes the lower case of what is read
  rw [← whole,Utf8.decodeLossy_run low filled,lowerChars_amid,lowerAmid_ascii plain,lower,chars_ofChars,
    lowerChars_eq,lowerAmid_ascii ascii]
  exact List.infix_append _ _ _

/-- The keyword stands between a character that breaks off and a byte that is none. -/
theorem fails_of_error_among_damage :
    let spelled : List UInt8 := [0x45,0x72,0x52,0x6f,0x52]
    let broken : Handle := ⟨2,[0xe2,0x82] ++ spelled ++ [0xff],"q"⟩
    "error" ≠ "" ∧ (∀ c ∈ "error".toList, c.toNat < 0x80) ∧ spelled <:+: broken.payload ∧
      spelled.map lowerByte = (Utf8.ofString "error").map lowerByte ∧
      ∃ k, make? "error" = .ok k ∧ (k.judge [⟨1,[0x6f,0x6b],"q"⟩,broken]).fails 2 := by
  intro spelled broken
  have some : "error" ≠ "" := by decide
  have ascii : ∀ c ∈ "error".toList, c.toNat < 0x80 := by simp
  have inside : spelled <:+: broken.payload := List.infix_append _ _ _
  have same : spelled.map lowerByte = (Utf8.ofString "error").map lowerByte := by decide
  exact ⟨some,ascii,inside,same,fails_of_spelling some ascii (h := broken) (by simp) inside same⟩

/-- A keyword is found in every well-formed payload that has it as it was given exactly if it is steady. -/
theorem fails_verbatim_iff_steady {s : String} (some : s ≠ "") : ∃ k, make? s = .ok k ∧
    ((∀ batch h text, h ∈ batch → Utf8.decode? h.payload = .some text → s.toList <:+: text →
      (k.judge batch).fails h.id) ↔ Steady s.toList) := by
  refine ⟨_,make?_of_ne_empty some,?_⟩
  rw [steady_iff]
  constructor
  · intro found text inside
    have readable := Utf8.decode?_encode text
    have := occurrence_of_fails (found [⟨0,Utf8.encode text,""⟩] _ text (List.mem_singleton_self _) readable inside)
    rwa [Utf8.decodeLossy_of_decode? readable] at this
  · intro kept batch h text member readable inside
    apply fails_of_occurrence member
    rw [Utf8.decodeLossy_of_decode? readable]
    exact kept text inside

theorem inner_sigma_found_verbatim : "ΑΣΑ" ≠ "" ∧ ∃ k, make? "ΑΣΑ" = .ok k ∧
    ∀ batch h text, h ∈ batch → Utf8.decode? h.payload = some text → "ΑΣΑ".toList <:+: text →
      (k.judge batch).fails h.id := by
  have some : "ΑΣΑ" ≠ "" := by decide
  have alpha : isCaseIgnorable 'Α' = false ∧ isCased 'Α' = true := by decide +kernel
  obtain ⟨k,hk,found⟩ := fails_verbatim_iff_steady some
  refine ⟨some,k,hk,found.mpr fun before after hs => ?_⟩
  rcases before with _ | ⟨a,_ | ⟨b,before⟩⟩ <;> simp at hs
  · obtain ⟨-,rfl⟩ := hs
    simp [letterAhead,alpha]
  · obtain ⟨-,-,hs⟩ := hs
    rcases before with _ | ⟨c,before⟩ <;> simp at hs

/-- A capital sigma at the end of a keyword has its final form there, and another one where the word goes on. -/
theorem capital_sigma_missed : ∃ k, make? "ΑΣ" = .ok k ∧ "ΑΣ".toList <:+: "ΑΣΑ".toList ∧
    Utf8.decode? (Utf8.ofString "ΑΣΑ") = some "ΑΣΑ".toList ∧
    ¬ (k.judge [⟨1,Utf8.ofString "ΑΣΑ","q"⟩]).fails 1 := by
  have filled : "ΑΣ".toList ≠ [] := by decide
  refine ⟨ofChars "ΑΣ".toList filled,make?_of_ne_empty (by decide),⟨[],['Α'],by decide⟩,by decide,?_⟩
  have success : (ofChars "ΑΣ".toList (by decide)).judge [⟨1,Utf8.ofString "ΑΣΑ","q"⟩] = .success := by decide +kernel
  rw [success]
  exact id

end Keyword
end Baler
