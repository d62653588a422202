import Baler.Proofs.ChannelLife
import Baler.Proofs.Stations

/-! A worker whose start fails. On its way out it closes the connection that it has opened. A fault that nothing
absorbs passes every cleanup by: one that comes back while the channel is set up, or while it is closed, leaves
the connection open. -/
namespace Baler

open Amqp

namespace Amqp

/-- Whether a fault came back that passes by the cleanup of an open connection. One that comes back from the closing
of the connection comes too late for that. -/
def Exchange.cutsShort (x : Exchange) : Bool := x.isCut && x.site ≠ .connect && x.site ≠ .closeConnection

/-- Whether the cleanup of an open connection was cut short. -/
def cutShort (xs : List Exchange) : Bool := xs.any Exchange.cutsShort

@[simp] theorem cutShort_append (xs ys : List Exchange) : cutShort (xs ++ ys) = (cutShort xs || cutShort ys) :=
  List.any_append

namespace Channel

variable {c : Channel} {replies : Amqp.Replies} {r : Result} {f : Fault} {held : Bool} {xs : List Exchange}

/-- What has passed by the time at which the setup of an open connection stumbles. -/
theorem Stumbles.opened (h : Stumbles replies f held xs) : opensLine (⟨.connect,none⟩ :: xs) = true ∧
    closesLine (⟨.connect,none⟩ :: xs) = false ∧ Amqp.cutShort (⟨.connect,none⟩ :: xs) = !f.isOrdinary := by
  cases h <;> simp [opensLine,closesLine,Amqp.cutShort,Exchange.cutsShort,Exchange.isCut]

theorem cutShort_parting (calm : ∀ x ∈ c.parting replies, x.site = .closeChannel → x.isCut = false) :
    Amqp.cutShort (c.parting replies) = false := by
  refine List.any_eq_false.mpr fun x hx cut => ?_
  by_cases at_channel : x.site = .closeChannel
  · simp [Exchange.cutsShort,calm x hx at_channel] at cut
  · have at_connection : x.site = .closeConnection := by
      simp only [parting,List.mem_append] at hx
      rcases hx with hx | hx
      · split at hx
        · exact absurd (congrArg Exchange.site (List.mem_singleton.mp hx)) at_channel
        · cases hx
      · split at hx
        · exact congrArg Exchange.site (List.mem_singleton.mp hx)
        · cases hx
    simp [Exchange.cutsShort,at_connection] at cut

theorem Releases.closesLine (h : c.Releases replies r) : Amqp.closesLine (exchanges replies r.acts) =
    (c.hasConnection && !Amqp.cutShort (exchanges replies r.acts)) := by
  cases h with
  | all fault channel passed calm =>
    rw [passed,cutShort_parting fun x hx _ => calm x hx,c.closesLine_parting]
    exact (Bool.and_true _).symm
  | cutAtChannel g grave refused held fault channel passed =>
    rw [passed]
    simp [Amqp.closesLine,Amqp.cutShort,Exchange.cutsShort,Exchange.isCut,grave]
  | cutAtConnection g grave refused held fault channel passed calm =>
    rw [passed,cutShort_parting calm,c.closesLine_parting]
    exact (Bool.and_true _).symm

theorem Releases.of_bare (h : c.Releases replies r) (connection : c.hasConnection = false)
    (channel : c.hasChannel = false) : exchanges replies r.acts = [] := by
  cases h with
  | all fault same passed calm => simp [passed,parting,connection,channel]
  | cutAtChannel g grave refused held => simp [channel] at held
  | cutAtConnection g grave refused held => simp [connection] at held

theorem Connects.line_of_ready (h : c.Connects replies r) (ready : r.fault = none) :
    opensLine (exchanges replies r.acts) = true ∧ closesLine (exchanges replies r.acts) = false ∧
      Amqp.cutShort (exchanges replies r.acts) = false ∧ r.channel.hasConnection = true := by
  cases h with
  | refused f refused fault => simp [fault] at ready
  | ready answered served fault channel passed =>
    rw [passed,channel]
    exact ⟨rfl,rfl,rfl,rfl⟩
  | broken f grave held xs answered stumbles fault => simp [fault] at ready
  | undone f calm held xs u answered stumbles releases fault => simp [fault] at ready

/-- A channel that fails to connect leaves an open connection behind if its cleanup was cut short. -/
theorem Connects.line_of_failed (h : c.Connects replies r) (failed : r.fault = some f) :
    (opensLine (exchanges replies r.acts) = true → closesLine (exchanges replies r.acts) = true) ↔
      Amqp.cutShort (exchanges replies r.acts) = false := by
  cases h with
  | refused f refused fault channel passed =>
    rcases passed with nothing | called
    · simp [nothing,opensLine,Amqp.cutShort]
    · simp [called,opensLine,Amqp.cutShort,Exchange.cutsShort]
  | ready answered served fault => simp [fault] at failed
  | broken g grave held xs answered stumbles fault channel passed =>
    obtain ⟨opens,quiet,cut⟩ := stumbles.opened
    rw [passed,opens,quiet,cut,grave]
    simp
  | undone g calm held xs u answered stumbles releases fault channel passed =>
    obtain ⟨opens,quiet,cut⟩ := stumbles.opened
    rw [passed,closesLine_append,opensLine_append,cutShort_append,opens,quiet,cut,calm,releases.closesLine]
    simp [half]

theorem Connects.bare_of_failed (h : c.Connects replies r) (free : c.hasConnection = false)
    (bare : c.hasChannel = false) (failed : r.fault = some f) (ordinary : f.isOrdinary = true) :
    r.channel.hasConnection = false ∧ r.channel.hasChannel = false := by
  cases h with
  | refused g refused fault channel =>
    rw [channel]
    exact ⟨free,bare⟩
  | ready answered served fault => simp [fault] at failed
  | broken g grave held xs answered stumbles fault =>
    obtain rfl := Option.some.inj (fault.symm.trans failed)
    simp [ordinary] at grave
  | undone g calm held xs u answered stumbles releases fault channel =>
    cases releases with
    | all silent bared =>
      rw [channel,silent,bared]
      exact ⟨rfl,rfl⟩
    | cutAtChannel e grave refused held said =>
      obtain rfl : e = f := by simpa [said] using fault.symm.trans failed
      simp [ordinary] at grave
    | cutAtConnection e grave refused held said =>
      obtain rfl : e = f := by simpa [said] using fault.symm.trans failed
      simp [ordinary] at grave

end Channel
end Amqp

variable {τ : Type}

theorem Assembly.releases_close {a : Assembly τ} {s : Station τ} (replies : Amqp.Replies) (hs : a.stations = [s])
    (inUse : a.channelAt = some 0) : ∃ r, s.channel.parted.Releases replies r ∧
      exchanges replies (a.close (·.close replies)).acts = exchanges replies r.acts := by
  obtain ⟨-,passed,-⟩ := close_station replies inUse (by rw [hs]; rfl)
  exact ⟨_,Channel.releases_release _ replies,passed.trans (s.channel.close_eq replies).1⟩

/-- What an assembly closes after it has failed to connect, unless nothing absorbs the fault. -/
def Assembly.Result.closedAfter (r : Assembly.Result τ) (closing : Amqp.Replies) (f : Fault) : List Act :=
  if f.isOrdinary then (r.assembly.close (·.close closing)).acts else []

/-- A connection that was opened in vain is closed, unless that is cut short. -/
theorem Assembly.closed_iff (settings : Settings) (judge : Option Judge) (replies closing : Amqp.Replies)
    {f : Fault} : let r : Result τ := connect (.fresh settings judge) replies
    r.fault = some f → let xs := exchanges replies r.acts ++ exchanges closing (r.closedAfter closing f)
      ((opensLine xs = true → closesLine xs = true) ↔ cutShort xs = false) := by
  intro r failed
  dsimp only
  cases (Assembly.fresh settings judge : Assembly τ).builds_connect replies with
  | refused g fault assembly passed =>
    have nothing : exchanges closing (r.closedAfter closing f) = [] := by
      rw [Result.closedAfter,assembly]
      split <;> rfl
    rw [passed,nothing]
    simp [opensLine,cutShort]
  | builds e wired stations channelAt passed fault =>
    have course : (Channel.fresh e).Connects replies _ := Channel.connects_connect rfl
    obtain ⟨u,releases,parted⟩ := releases_close closing stations channelAt
    rcases fault with same | ⟨silent,g,hg,ordinary⟩
    · have stuck := same.trans failed
      have nothing : exchanges closing (r.closedAfter closing f) = [] := by
        unfold Result.closedAfter
        split
        · rename_i ho
          obtain ⟨connection,channel⟩ := course.bare_of_failed rfl rfl stuck ho
          exact parted.trans (releases.of_bare connection channel)
        · rfl
      rw [nothing,List.append_nil,passed]
      exact course.line_of_failed stuck
    · obtain rfl : f = g := Option.some.inj (failed.symm.trans hg)
      obtain ⟨opens,closes,calm,held⟩ := course.line_of_ready silent
      have last : exchanges closing (r.closedAfter closing f) = exchanges closing u.acts := by
        rw [Result.closedAfter,if_pos ordinary]
        exact parted
      rw [last,opensLine_append,closesLine_append,cutShort_append,passed,opens,closes,calm,releases.closesLine]
      simp [Channel.parted,held]

theorem Worker.ended_abandonStart (w : Worker τ) (closing : Channel → Channel.Result) (f : Fault) :
    (w.abandonStart closing f).1.phase = none ∧ ∃ g, (w.abandonStart closing f).1.ending = some (.raised g) := by
  unfold abandonStart
  split <;> exact ⟨rfl,_,rfl⟩

namespace Duty

variable [Add τ] [LE τ] [DecidableLE τ]

/-- A worker that fails to start has ended with a fault. The connection that it had opened, if any, is closed by
then, unless the cleanup was cut short by a fault that nothing absorbs. -/
theorem closed_iff_of_failed (w : Worker τ) (replies closing : Amqp.Replies) (listens : Bool) (instant : Float → τ)
    (now : τ) {f : Fault}
    (failed : (Assembly.connect (.fresh w.assembly.settings none) replies : Assembly.Result τ).fault = some f) :
    let d := start w replies closing listens instant now
    let first := (Assembly.connect (.fresh w.assembly.settings none) replies : Assembly.Result τ).acts
    d.worker.phase = none ∧ (∃ g, d.worker.ending = some (.raised g)) ∧
      ∃ last, d.deeds = (first ++ last).map Deed.line ∧
        let xs := exchanges replies first ++ exchanges closing last
        ((opensLine xs = true → closesLine xs = true) ↔ cutShort xs = false) := by
  intro d first
  let r : Assembly.Result τ := Assembly.connect (.fresh w.assembly.settings none) replies
  let v : Worker τ := { w with assembly := r.assembly, ending := none }
  have course : d = ⟨(v.abandonStart (·.close closing) f).1,
      first.map Deed.line ++ (v.abandonStart (·.close closing) f).2⟩ := by
    simp only [d,start,Worker.start,failed]
    rfl
  rw [course]
  -- an ordinary fault closes what was built, any other nothing
  have settled : (v.abandonStart (·.close closing) f).2 = (r.closedAfter closing f).map Deed.line := by
    unfold Worker.abandonStart Assembly.Result.closedAfter
    split <;> rfl
  obtain ⟨gone,ended⟩ := v.ended_abandonStart (·.close closing) f
  exact ⟨gone,ended,r.closedAfter closing f,by simp [settled],Assembly.closed_iff _ none replies closing failed⟩

/-- A worker whose strategy cannot be built. -/
def withoutKeyword : Worker Nat := .fresh { forPairs.assembly.settings with failureKeyword := "" }

theorem closed_after_wiring_failed :
    let r : Assembly.Result Nat := Assembly.connect (.fresh withoutKeyword.assembly.settings none) (failsAt [])
    let d := start withoutKeyword (failsAt []) (failsAt [.closeChannel]) true (fun _ => 10) 0
    r.fault = some ⟨.value, "keyword must be non-empty"⟩ ∧ d.worker.phase = none ∧
      ∃ last, d.deeds = (r.acts ++ last).map Deed.line ∧
        let xs := exchanges (failsAt []) r.acts ++ exchanges (failsAt [.closeChannel]) last
        ((opensLine xs = true → closesLine xs = true) ↔ cutShort xs = false) := by
  intro r d
  have failed : r.fault = some ⟨.value, "keyword must be non-empty"⟩ := by decide +kernel
  obtain ⟨gone,-,last,said,iff⟩ := closed_iff_of_failed withoutKeyword (failsAt []) (failsAt [.closeChannel])
    true (fun _ => 10) 0 failed
  exact ⟨failed,gone,last,said,iff⟩

/-- The worker is cancelled while the deliveries under way are limited. -/
def cancelledAtQos : Amqp.Replies
  | .qos => some .cancellation
  | _ => none

/-- The connection of a worker that is cancelled during its start stays open. -/
theorem connection_outlives_cancelled_start :
    let d := start forPairs cancelledAtQos (fun _ => none) true (fun _ => 10) 0
    let first := (Assembly.connect (.fresh forPairs.assembly.settings none) cancelledAtQos : Assembly.Result Nat).acts
    d.worker.phase = none ∧ d.worker.ending = some (.raised .cancellation) ∧ d.deeds = first.map Deed.line ∧
      opensLine (exchanges cancelledAtQos first) = true ∧ closesLine (exchanges cancelledAtQos first) = false :=
  ⟨by decide +kernel,by decide +kernel,rfl,by decide +kernel,by decide +kernel⟩

end Duty
end Baler
