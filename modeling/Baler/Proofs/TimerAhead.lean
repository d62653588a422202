import Baler.Consumer
import Baler.Proofs.DoubleSigns

/-! Which policies there are, and where the first tick of a run on one of them lies. A wait is taken unless it
compares as zero or below. Of what is taken, every number is above zero, and so is the tick that it sets from zero;
the entry that is no number is taken too, and the tick that it sets never comes. -/
namespace Baler

/-- Whether an entry gives a mode: it is the mode, or it shows as the mode's name in any case and with blanks
around it. -/
def Value.Gives : Value → AckMode → Prop
  | .mode n, m => n = m
  | v, m => Text.lower (Text.trim v.shown) = m.name

theorem AckMode.named?_eq_some {s : String} {m : AckMode} : named? s = some m ↔ s = m.name := by
  refine ⟨fun found => ?_,fun spelled => spelled ▸ named?_name m⟩
  unfold named? at found
  split at found
  · cases found
    assumption
  split at found <;> cases found
  assumption

namespace Quantity

/-- Whether a quantity is a number at all. -/
def isNumber : Quantity → Bool
  | whole _ => true
  | real x => !x.isNaN

variable {q : Quantity} {x : Float}

theorem isPositive_iff_isNumber (taken : q.isSpent = false) : q.isPositive = true ↔ q.isNumber = true := by
  cases q with
  | whole n =>
    have pos : ¬ n ≤ 0 := by simpa [isSpent] using taken
    simpa [isPositive,isNumber] using pos
  | real x =>
    have ahead : ¬ x ≤ 0 := by simpa [isSpent] using taken
    simpa [isPositive,isNumber] using Number.pos_iff_of_not_le_zero ahead

/-- The double of a whole number above zero is above zero: the least of them is one. -/
theorem pos_of_toFloat_whole {n : Int} (pos : 0 < n) (hx : (whole n).toFloat = .ok x) : 0 < x := by
  obtain ⟨m,rfl⟩ := Int.eq_ofNat_of_zero_le pos.le
  have near : x = Float.ofNat m := by
    unfold toFloat Number.nearest? at hx
    dsimp only at hx
    split at hx
    · rename_i found
      split at found <;> cases found
      cases hx
      rfl
    · cases hx
  rw [near]
  exact Number.ofNat_pos (by omega)

/-- As a double a quantity lies on the same side of zero as before, or on neither as before. -/
theorem sign_of_toFloat (taken : q.isSpent = false) (hx : q.toFloat = .ok x) :
    ¬ x ≤ 0 ∧ (0 < x ↔ q.isNumber = true) := by
  cases q with
  | whole n =>
    have above : 0 < x := pos_of_toFloat_whole (by simpa [isSpent] using taken) hx
    exact ⟨Number.not_le_zero_of_pos above,iff_of_true above rfl⟩
  | real _ =>
    cases hx
    have ahead : ¬ x ≤ 0 := by simpa [isSpent] using taken
    exact ⟨ahead,by simpa [isNumber] using Number.pos_iff_of_not_le_zero ahead⟩

end Quantity

namespace Policy

theorem capacity?_eq_ok {v : Value} {n : Nat} (pos : 0 < n) : capacity? v = .ok ⟨n,pos⟩ ↔ v = .whole n := by
  cases v with
  | whole m =>
    simp only [capacity?,Value.whole.injEq]
    split
    · simp only [Except.ok.injEq,Subtype.mk.injEq]
      omega
    · simp only [reduceCtorEq,false_iff]
      omega
  | _ => simp [capacity?]

theorem wait?_eq_ok {v : Value} {q : Quantity} : wait? v = .ok q ↔ v = q.toValue ∧ q.isSpent = false := by
  have checked (r : Quantity) : wait? r.toValue =
      if r.isSpent then .error ⟨.value,"max_wait_time must be positive"⟩ else .ok r := by
    cases r <;> rfl
  constructor
  · intro taken
    obtain ⟨r,rfl⟩ : ∃ r : Quantity, v = r.toValue := by
      cases v with
      | whole n => exact ⟨.whole n,rfl⟩
      | real x => exact ⟨.real x,rfl⟩
      | _ => cases taken
    rw [checked] at taken
    split at taken <;> cases taken
    exact ⟨rfl,by simp_all⟩
  · rintro ⟨rfl,taken⟩
    rw [checked,taken]
    rfl

theorem mode?_eq_ok {v : Value} {m : AckMode} : mode? v = .ok m ↔ v.Gives m := by
  cases v with
  | mode n => simp only [mode?,Value.Gives,Except.ok.injEq]
  | _ =>
    simp only [mode?,Value.Gives,← AckMode.named?_eq_some]
    split
    · rename_i found
      rw [found,Except.ok.injEq,Option.some.injEq]
    · rename_i absent
      simp only [absent,reduceCtorEq]

/-- The policies that there are, entry by entry. -/
theorem make?_eq_ok {size wait mode : Value} {p : Policy} : make? size wait mode = .ok p ↔
    size = .whole p.capacity ∧ wait = p.wait.toValue ∧ p.wait.isSpent = false ∧ mode.Gives p.mode := by
  rw [← capacity?_eq_ok p.capacity_pos,← and_assoc (b := p.wait.isSpent = false),← wait?_eq_ok,
    ← mode?_eq_ok]
  obtain ⟨capacity,longest,chosen,pos⟩ := p
  unfold make?
  cases capacity? size with
  | error f => simp [bind,Except.bind]
  | ok c =>
    cases wait? wait with
    | error f => simp [bind,Except.bind]
    | ok q =>
      cases mode? mode with
      | error f => simp [bind,Except.bind]
      | ok m => simp [bind,Except.bind,pure,Except.pure,Subtype.ext_iff]

end Policy

/-- A run whose interval is not zero or below waits for its first tick an interval after zero. -/
theorem Consumer.waits_of_begin {c : Consumer Float} {x : Float} (hx : c.policy.wait.toFloat = .ok x)
    (ahead : ¬ x ≤ 0) (closable : Bool) : ∃ r, (c.begin id (.ok closable) 0).1.run = some r ∧
      r.phase = .waiting ∧ r.ticker = ⟨x,x⟩ := by
  have first : Ticker.start x (0 : Float) = ⟨x,x⟩ := by
    rw [Ticker.start,Number.zero_add_of_not_le_zero ahead]
  have early : (⟨x,x⟩ : Ticker Float).isDue 0 = false := by simpa [Ticker.isDue] using ahead
  have waits : Consumer.turn { c with standing := .idle, ending := none } ⟨⟨x,x⟩,.idle,closable,.waiting⟩ 0 =
      (Consumer.suspend { c with standing := .idle, ending := none } ⟨⟨x,x⟩,.pending,closable,.waiting⟩,
        [.receive]) := by
    simp only [Consumer.turn,early]
    rfl
  simp only [Consumer.begin,hx,Consumer.start,id,first,waits]
  exact ⟨_,rfl,rfl,rfl⟩

/-- A tick that is no number is never due. -/
theorem Ticker.not_isDue_of_isNaN {t : Ticker Float} (h : t.next.isNaN = true) (now : Float) :
    t.isDue now = false := by
  simpa [Ticker.isDue] using Number.not_le_of_isNaN h now

namespace Policy

/-- A policy has a positive capacity and the mode of its entry. Its wait is above zero, and so is the first tick of
every run on it that begins at zero, exactly if the wait is a number. -/
theorem ahead_iff_isNumber {size wait mode : Value} {p : Policy} (made : make? size wait mode = .ok p) :
    size = .whole p.capacity ∧ 1 ≤ p.capacity ∧ wait = p.wait.toValue ∧ mode.Gives p.mode ∧
      (p.wait.isPositive = true ↔ p.wait.isNumber = true) ∧
      ∀ c : Consumer Float, c.policy = p → ∀ x, p.wait.toFloat = .ok x → ∀ closable,
        ∃ r, (c.begin id (.ok closable) 0).1.run = some r ∧ r.phase = .waiting ∧
          (0 < r.ticker.next ↔ p.wait.isNumber = true) := by
  obtain ⟨sized,waiting,taken,given⟩ := make?_eq_ok.mp made
  refine ⟨sized,p.capacity_pos,waiting,given,Quantity.isPositive_iff_isNumber taken,?_⟩
  rintro c rfl x hx closable
  obtain ⟨ahead,side⟩ := Quantity.sign_of_toFloat taken hx
  obtain ⟨r,running,waits,ticks⟩ := c.waits_of_begin hx ahead closable
  exact ⟨r,running,waits,by rwa [ticks]⟩

/-- Batches of one, and the shortest wait there is. -/
def least : Policy := ⟨1,.real (.ofBits 1),.batched,by decide⟩

theorem ahead_of_least : make? (.whole 1) (.real (.ofBits 1)) (.text " Batched ") = .ok least ∧
    least.wait.isPositive = true ∧ ∃ r, ((Consumer.fresh "orders" least false).begin id (.ok true) 0).1.run = some r ∧
      r.phase = .waiting ∧ (0 : Float) < r.ticker.next := by
  have made : make? (.whole 1) (.real (.ofBits 1)) (.text " Batched ") = .ok least := by rfl
  obtain ⟨-,-,-,-,positive,ahead⟩ := ahead_iff_isNumber made
  have number : least.wait.isNumber = true := rfl
  obtain ⟨r,running,waits,next⟩ := ahead (.fresh "orders" least false) rfl _ rfl true
  exact ⟨made,positive.mpr number,r,running,waits,next.mpr number⟩

/-- Nothing is compared as zero or below if it is no number, so it is taken for a wait: a run then waits for a tick
that does not lie ahead and never comes. -/
theorem taken_without_number : ∃ p : Policy, make? (.whole 10) (.real (0 / 0)) (.mode .individual) = .ok p ∧
    p.wait.isPositive = false ∧
    ∃ r, ((Consumer.fresh "orders" p false).begin id (.ok true) 0).1.run = some r ∧ r.phase = .waiting ∧
      ¬ (0 : Float) < r.ticker.next ∧ ∀ now, r.ticker.isDue now = false := by
  have lost : (0 / 0 : Float).isNaN = true := by rfl
  obtain ⟨r,running,waits,ticks⟩ := Consumer.waits_of_begin
    (c := .fresh "orders" ⟨10,.real (0 / 0),.individual,by decide⟩ false) (x := 0 / 0) rfl (by decide) true
  refine ⟨⟨10,.real (0 / 0),.individual,by decide⟩,rfl,rfl,r,running,waits,?_,
    Ticker.not_isDue_of_isNaN (by rw [ticks]; exact lost)⟩
  rw [ticks]
  decide

end Policy
end Baler
