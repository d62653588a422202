import Baler.Amqp.Channel

/-! What passes over the line while a channel is connected or closed. Each call that opens or closes a part of
the line is an exchange: the place that was called, and what came back from there. A channel that connects, or
gives up what it holds, takes one of a few courses. -/
namespace Baler.Amqp

/-- The place of a call that opens, limits or closes a part of the line. -/
def Call.site? : Call → Option Site
  | .connect _ => some .connect
  | .openChannel => some .openChannel
  | .qos _ => some .qos
  | .closeChannel => some .closeChannel
  | .closeConnection => some .closeConnection
  | _ => none

/-- The place that an act calls. -/
def Act.site? : Act → Option Site
  | .call c => c.site?
  | .log _ => none

/-- A place of the line that was called, and the fault that came back, if any. -/
structure Exchange where
  site : Site
  fault : Option Fault
deriving DecidableEq

/-- Whether a fault came back that nothing absorbs. -/
def Exchange.isCut (x : Exchange) : Bool := x.fault.any fun f => !f.isOrdinary

/-- The exchange at a place. -/
def Replies.exchange (r : Replies) (s : Site) : Exchange := ⟨s, r.ofCall s⟩

/-- The exchanges of acts, in order. -/
def exchanges (r : Replies) (acts : List Act) : List Exchange :=
  (acts.filterMap Act.site?).map r.exchange

/-- Whether a connection was opened. -/
def opensLine (xs : List Exchange) : Bool := xs.any (· = ⟨.connect, none⟩)

/-- Whether closing the connection was tried. -/
def closesLine (xs : List Exchange) : Bool := xs.any (·.site = .closeConnection)

section

variable (r : Replies) (acts more : List Act)

@[simp] theorem exchanges_nil : exchanges r [] = [] := rfl
@[simp] theorem exchanges_append : exchanges r (acts ++ more) = exchanges r acts ++ exchanges r more := by
  simp [exchanges]
@[simp] theorem exchanges_event (e : Log.Event) : exchanges r (.event e :: acts) = exchanges r acts := rfl
@[simp] theorem exchanges_warn (text : String) : exchanges r (.warn text :: acts) = exchanges r acts := rfl
@[simp] theorem exchanges_connect (address : String) :
    exchanges r (.call (.connect address) :: acts) = r.exchange .connect :: exchanges r acts := rfl
@[simp] theorem exchanges_openChannel :
    exchanges r (.call .openChannel :: acts) = r.exchange .openChannel :: exchanges r acts := rfl
@[simp] theorem exchanges_qos (count : Int) :
    exchanges r (.call (.qos count) :: acts) = r.exchange .qos :: exchanges r acts := rfl
@[simp] theorem exchanges_closeChannel :
    exchanges r (.call .closeChannel :: acts) = r.exchange .closeChannel :: exchanges r acts := rfl
@[simp] theorem exchanges_closeConnection :
    exchanges r (.call .closeConnection :: acts) = r.exchange .closeConnection :: exchanges r acts := rfl

end

@[simp] theorem opensLine_append (xs ys : List Exchange) :
    opensLine (xs ++ ys) = (opensLine xs || opensLine ys) := List.any_append
@[simp] theorem closesLine_append (xs ys : List Exchange) :
    closesLine (xs ++ ys) = (closesLine xs || closesLine ys) := List.any_append

section

variable {r : Replies} {s : Site} {f : Fault}

theorem exchange_of_silent (h : r.ofCall s = none) : r.exchange s = ⟨s,none⟩ := by rw [Replies.exchange,h]
theorem exchange_of_fault (h : r.ofCall s = some f) : r.exchange s = ⟨s,some f⟩ := by rw [Replies.exchange,h]

theorem calm_of_silent (h : r.ofCall s = none) : (r.exchange s).isCut = false := by
  rw [exchange_of_silent h]; rfl
theorem isCut_of_fault (h : r.ofCall s = some f) : (r.exchange s).isCut = !f.isOrdinary := by
  rw [exchange_of_fault h]; rfl

end

namespace Channel

variable {c : Channel} {replies : Replies}

/-- A channel without anything of the line. -/
def bare (c : Channel) : Channel := { c with hasConnection := false, hasChannel := false }

/-- The exchanges in which everything that a channel holds is closed, the channel before its connection. -/
def parting (c : Channel) (replies : Replies) : List Exchange :=
  (if c.hasChannel then [replies.exchange .closeChannel] else []) ++
    if c.hasConnection then [replies.exchange .closeConnection] else []

theorem closesLine_parting (c : Channel) (replies : Replies) :
    closesLine (c.parting replies) = c.hasConnection := by
  unfold parting
  cases c.hasChannel <;> cases c.hasConnection <;> rfl

/-- The courses of a release: everything is closed, or a fault that nothing absorbs comes back from one of the
closings and ends it there. -/
inductive Releases (c : Channel) (replies : Replies) (r : Result) : Prop
  | all (fault : r.fault = none) (channel : r.channel = c.bare)
      (passed : exchanges replies r.acts = c.parting replies)
      (calm : ∀ x ∈ c.parting replies, x.isCut = false)
  | cutAtChannel (g : Fault) (grave : g.isOrdinary = false) (refused : replies.ofCall .closeChannel = some g)
      (held : c.hasChannel = true) (fault : r.fault = some g) (channel : r.channel = c)
      (passed : exchanges replies r.acts = [⟨.closeChannel, some g⟩])
  | cutAtConnection (g : Fault) (grave : g.isOrdinary = false)
      (refused : replies.ofCall .closeConnection = some g) (held : c.hasConnection = true)
      (fault : r.fault = some g) (channel : r.channel = { c with hasChannel := false })
      (passed : exchanges replies r.acts = c.parting replies)
      (calm : ∀ x ∈ c.parting replies, x.site = .closeChannel → x.isCut = false)

theorem releases_closeConnection (h : c.hasChannel = false) :
    c.Releases replies (c.closeConnection replies) := by
  have bared : ∀ held, c.hasConnection = held → c.bare = { c with hasConnection := false } := by
    rintro held -
    rw [bare,h]
  cases hc : c.hasConnection with
  | false =>
    have same : c.bare = c := by rw [bared _ hc,← hc]
    have passed : c.parting replies = [] := by simp [parting,h,hc]
    simp only [closeConnection,hc,Bool.not_false,if_true]
    exact .all rfl same.symm passed.symm (by simp [passed])
  | true =>
    have passed : c.parting replies = [replies.exchange .closeConnection] := by simp [parting,h,hc]
    simp only [closeConnection,hc,Bool.not_true,Bool.false_eq_true,if_false]
    cases hr : replies.ofCall .closeConnection with
    | none => exact .all rfl (bared _ hc).symm passed.symm (by simp [passed,calm_of_silent hr])
    | some f =>
      dsimp only
      cases ho : f.isOrdinary with
      | true =>
        simp only [if_true]
        exact .all rfl (bared _ hc).symm passed.symm (by simp [passed,isCut_of_fault hr,ho])
      | false =>
        have kept : c = { c with hasChannel := false } := by rw [← h]
        simp only [Bool.false_eq_true,if_false]
        exact .cutAtConnection f ho hr hc rfl kept passed.symm (by simp [passed,Replies.exchange])

theorem Releases.afterChannel {r : Result} (h : { c with hasChannel := false }.Releases replies r)
    (held : c.hasChannel = true) (calm : (replies.exchange .closeChannel).isCut = false) {acts : List Act}
    (said : exchanges replies acts = replies.exchange .closeChannel :: exchanges replies r.acts) :
    c.Releases replies { r with acts } := by
  have passed : c.parting replies =
      replies.exchange .closeChannel :: { c with hasChannel := false }.parting replies := by
    simp [parting,held]
  cases h with
  | all fault channel others rest =>
    refine .all fault channel (by rw [said,others,passed]) ?_
    rw [passed]
    exact List.forall_mem_cons.mpr ⟨calm,rest⟩
  | cutAtChannel g grave refused still => cases still
  | cutAtConnection g grave refused connection fault channel others rest =>
    refine .cutAtConnection g grave refused connection fault channel (by rw [said,others,passed]) ?_
    rw [passed]
    exact List.forall_mem_cons.mpr ⟨fun _ => calm,rest⟩

theorem releases_release (c : Channel) (replies : Replies) : c.Releases replies (c.release replies) := by
  unfold release
  cases held : c.hasChannel with
  | false =>
    simp only [Bool.not_false,if_true]
    exact releases_closeConnection held
  | true =>
    have rest : { c with hasChannel := false }.Releases replies _ := releases_closeConnection rfl
    simp only [Bool.not_true,Bool.false_eq_true,if_false]
    cases hr : replies.ofCall .closeChannel with
    | none => exact rest.afterChannel held (calm_of_silent hr) (by simp)
    | some f =>
      dsimp only
      cases ho : f.isOrdinary with
      | true =>
        simp only [if_true]
        exact rest.afterChannel held (by simp [isCut_of_fault hr,ho]) (by simp)
      | false =>
        simp only [Bool.false_eq_true,if_false]
        exact .cutAtChannel f ho hr held rfl rfl (by simp [exchange_of_fault hr])

/-- How far the channel of an open connection is set up when a fault comes back: whether there is a channel by
then, and what has passed. -/
inductive Stumbles (replies : Replies) (f : Fault) : Bool → List Exchange → Prop
  | opening (refused : replies.ofCall .openChannel = some f) :
      Stumbles replies f false [⟨.openChannel, some f⟩]
  | limiting (answered : replies.ofCall .openChannel = none) (refused : replies.ofCall .qos = some f) :
      Stumbles replies f true [⟨.openChannel, none⟩, ⟨.qos, some f⟩]

/-- A channel whose connection is open, with or without a channel on it. -/
def half (c : Channel) (channel : Bool) : Channel :=
  { c with stage := .connected, hasConnection := true, hasChannel := channel }

/-- The courses of a connection: there is no address to call, or the call is refused; or it is ready; or it
stumbles, and then what is there is released unless the fault is one that nothing absorbs. -/
inductive Connects (c : Channel) (replies : Replies) (r : Result) : Prop
  | refused (f : Fault) (refused : (dial c.endpoint replies).2 = some f) (fault : r.fault = some f)
      (channel : r.channel = { c with stage := if f.isOrdinary then .disconnected else .connecting })
      (passed : exchanges replies r.acts = [] ∨ exchanges replies r.acts = [⟨.connect, some f⟩])
  | ready (answered : (dial c.endpoint replies).2 = none)
      (served : ∀ s ∈ [Site.openChannel, .qos], replies.ofCall s = none)
      (fault : r.fault = none) (channel : r.channel = { c.half true with stage := .ready })
      (passed : exchanges replies r.acts = [⟨.connect, none⟩, ⟨.openChannel, none⟩, ⟨.qos, none⟩])
  | broken (f : Fault) (grave : f.isOrdinary = false) (held : Bool) (xs : List Exchange)
      (answered : (dial c.endpoint replies).2 = none) (stumbles : Stumbles replies f held xs)
      (fault : r.fault = some f) (channel : r.channel = c.half held)
      (passed : exchanges replies r.acts = ⟨.connect, none⟩ :: xs)
  | undone (f : Fault) (ordinary : f.isOrdinary = true) (held : Bool) (xs : List Exchange) (u : Result)
      (answered : (dial c.endpoint replies).2 = none) (stumbles : Stumbles replies f held xs)
      (releases : (c.half held).Releases replies u) (fault : r.fault = some (u.fault.getD f))
      (channel : r.channel = if u.fault.isNone then { u.channel with stage := .disconnected } else u.channel)
      (passed : exchanges replies r.acts = ⟨.connect, none⟩ :: xs ++ exchanges replies u.acts)

theorem exchanges_dial_of_silent {e : Endpoint} (h : (dial e replies).2 = none) :
    exchanges replies (dial e replies).1 = [⟨.connect, none⟩] := by
  unfold dial at h ⊢
  cases ha : e.address? with
  | error f => simp [ha] at h
  | ok address =>
    rw [ha] at h
    dsimp only
    rw [exchanges_connect,exchange_of_silent h,exchanges_nil]

/-- Where a fault comes up at the first call, nothing has passed, since there is no address, or the fault came
back. -/
theorem exchanges_dial_of_fault {e : Endpoint} {f : Fault} (h : (dial e replies).2 = some f) :
    exchanges replies (dial e replies).1 = [] ∨ exchanges replies (dial e replies).1 = [⟨.connect, some f⟩] := by
  unfold dial at h ⊢
  cases ha : e.address? with
  | error g => exact .inl rfl
  | ok address =>
    rw [ha] at h
    dsimp only
    rw [exchanges_connect,exchange_of_fault h,exchanges_nil]
    exact .inr rfl

theorem connects_of_stumbles {f : Fault} {held : Bool} {xs : List Exchange} (c : Channel)
    (answered : (dial c.endpoint replies).2 = none) (stumbles : Stumbles replies f held xs) {acts : List Act}
    (said : exchanges replies acts =
      ⟨.connect, none⟩ :: xs ++ exchanges replies ((c.half held).abandonSetup replies f).acts) :
    c.Connects replies { (c.half held).abandonSetup replies f with acts } := by
  simp only [abandonSetup] at said ⊢
  cases ho : f.isOrdinary with
  | false =>
    simp only [ho,Bool.not_false,if_true] at said ⊢
    exact .broken f ho held xs answered stumbles rfl rfl (by simpa using said)
  | true =>
    have releases := releases_release (c.half held) replies
    simp only [ho,Bool.not_true,Bool.false_eq_true,if_false] at said ⊢
    refine .undone f ho held xs _ answered stumbles releases ?_ ?_ ?_
    · cases ((c.half held).release replies).fault <;> rfl
    · cases ((c.half held).release replies).fault <;> rfl
    · rw [said]
      cases ((c.half held).release replies).fault <;> rfl

theorem connects_connect (h : c.hasChannel = false) : c.Connects replies (c.connect replies) := by
  have first : { c with stage := .connected, hasConnection := true } = c.half false := by rw [half,h]
  unfold connect
  dsimp only
  cases hc : (dial c.endpoint replies).2 with
  | some f =>
    have passed := exchanges_dial_of_fault hc
    dsimp only
    cases ho : f.isOrdinary with
    | true =>
      simp only [if_true]
      exact .refused f hc rfl (by rw [ho,if_pos rfl]) (by simpa using passed)
    | false =>
      simp only [Bool.false_eq_true,if_false]
      exact .refused f hc rfl (by simp [ho]) (by simpa using passed)
  | none =>
    have passed := exchanges_dial_of_silent hc
    dsimp only
    rw [first,setUp]
    cases hs : replies.ofCall .openChannel with
    | some f =>
      exact c.connects_of_stumbles hc (.opening hs) (by simp [passed,exchange_of_fault hs])
    | none =>
      dsimp only
      cases hq : replies.ofCall .qos with
      | some f =>
        refine c.connects_of_stumbles hc (.limiting hs hq) ?_
        simp only [exchanges_event,exchanges_append,passed,exchanges_openChannel,exchanges_qos,
          exchange_of_silent hs,exchange_of_fault hq]
        rfl
      | none =>
        have served : ∀ s ∈ [Site.openChannel, .qos], replies.ofCall s = none := by simp [hs,hq]
        exact .ready hc served rfl rfl (by simp [passed,exchange_of_silent hs,exchange_of_silent hq])

/-- A channel that is about to close: it has forgotten its deliveries. -/
def parted (c : Channel) : Channel := { c with stage := .closing, pending := .empty }

/-- To close is to release what is held; the channel is closed then unless the release was cut short. -/
theorem close_eq (c : Channel) (replies : Replies) :
    let u := c.parted.release replies
    exchanges replies (c.close replies).acts = exchanges replies u.acts ∧ (c.close replies).fault = u.fault ∧
      (c.close replies).channel = if u.fault.isNone then { u.channel with stage := .closed } else u.channel := by
  intro u
  rcases hu : u with ⟨channel,acts,fault⟩
  have released : { c with stage := .closing, pending := .empty }.release replies = ⟨channel,acts,fault⟩ := hu
  simp only [close,released]
  cases fault with
  | none => exact ⟨rfl,rfl,rfl⟩
  | some f => exact ⟨rfl,rfl,rfl⟩

end Channel
end Baler.Amqp
