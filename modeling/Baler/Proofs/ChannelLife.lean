import Baler.Proofs.Exchanges
import Baler.Proofs.Shutdown

/-! The life of a broker channel: it connects, is used, and closes, any number of times, and each call to the
broker may fail. It is ready exactly while it holds a whole line, and what it has opened and does not hold any
more was closed once, in order. -/
namespace Baler.Amqp

/-- The line fails at the given places. -/
def failsAt (sites : List Site) : Replies :=
  fun s => if s ∈ sites then some ⟨.connection "ConnectionResetError", "reset"⟩ else none

theorem ordinary_failsAt (sites : List Site) : (failsAt sites).Ordinary := by
  intro s f h
  simp only [failsAt] at h
  split at h
  · cases h
    rfl
  · cases h

/-- What happens to a channel: it connects, it closes, or deliveries come in and are settled. -/
inductive Occurrence
  | connect (replies : Replies)
  | close (replies : Replies)
  | traffic (pending : Pending Delivery)

/-- How the line replies on an occurrence. -/
def Occurrence.replies : Occurrence → Replies
  | .connect r | .close r => r
  | .traffic _ => fun _ => none

/-- What a channel does on an occurrence. -/
def Channel.meet (c : Channel) : Occurrence → Channel.Result
  | .connect replies => c.connect replies
  | .close replies => c.close replies
  | .traffic pending => ⟨{ c with pending }, [], none⟩

/-- Whether an occurrence can come to a channel: nobody connects a channel that holds a connection, and the
broker fails with ordinary faults only. -/
def Occurrence.Fits (c : Channel) : Occurrence → Prop
  | .connect replies => c.hasConnection = false ∧ replies.Ordinary
  | .close replies => replies.Ordinary
  | .traffic _ => True

/-- What becomes of the parts of the line: one is opened, or its closing is tried. -/
inductive Milestone
  | connectionOpened
  | channelOpened
  | channelClosing
  | connectionClosing
deriving DecidableEq, Repr

/-- What an exchange does to a part of the line. -/
def Exchange.milestone? : Exchange → Option Milestone
  | ⟨.connect, none⟩ => some .connectionOpened
  | ⟨.openChannel, none⟩ => some .channelOpened
  | ⟨.closeChannel, _⟩ => some .channelClosing
  | ⟨.closeConnection, _⟩ => some .connectionClosing
  | _ => none

/-- What exchanges do to the parts of the line, in order. -/
def milestones (xs : List Exchange) : List Milestone := xs.filterMap Exchange.milestone?

/-- The milestones of a connection that is over, with or without a channel on it. Each part was closed once, the
channel before its connection. -/
def wholeLife (channel : Bool) : List Milestone :=
  if channel then [.connectionOpened, .channelOpened, .channelClosing, .connectionClosing]
  else [.connectionOpened, .connectionClosing]

/-- The milestones of the connection that a channel holds. -/
def Channel.lifeSoFar (c : Channel) : List Milestone :=
  (if c.hasConnection then [.connectionOpened] else []) ++ if c.hasChannel then [.channelOpened] else []

/-- The first fault that comes up while a channel connects: there is no address, or the call of the broker is
refused, or what is asked of the connection. -/
def Endpoint.refusal? (e : Endpoint) (r : Replies) : Option Fault :=
  (Channel.dial e r).2.or ((r.ofCall .openChannel).or (r.ofCall .qos))

/-- A channel with the milestones of its line, and the fault with which its last occurrence ended. -/
structure Career where
  channel : Channel
  past : List Milestone
  fault : Option Fault

namespace Career

/-- A channel that has not been connected. -/
def start (e : Endpoint) : Career := ⟨.fresh e, [], none⟩

/-- A career after an occurrence. -/
def next (k : Career) (o : Occurrence) : Career :=
  let r := k.channel.meet o
  ⟨r.channel, k.past ++ milestones (exchanges o.replies r.acts), r.fault⟩

/-- A career after some occurrences. -/
def after (k : Career) (os : List Occurrence) : Career := os.foldl next k

/-- Whether occurrences can come to a channel one after the other. -/
def Allows (k : Career) : List Occurrence → Prop
  | [] => True
  | o :: os => o.Fits k.channel ∧ (k.next o).Allows os

/-- A channel holds the whole line and is ready, or holds nothing; what is over was closed once, in order. -/
structure Sound (k : Career) : Prop where
  ready : k.channel.stage = .ready ↔ k.channel.hasChannel = true ∧ k.channel.hasConnection = true
  rests : k.channel.stage ≠ .ready → (k.channel.stage = .disconnected ∨ k.channel.stage = .closed) ∧
    k.channel.hasChannel = false ∧ k.channel.hasConnection = false
  lives : ∃ lives : List Bool, k.past = lives.flatMap wholeLife ++ k.channel.lifeSoFar

end Career

section

variable {c : Channel} {replies : Replies} {r : Channel.Result}

@[simp] theorem milestones_append (xs ys : List Exchange) :
    milestones (xs ++ ys) = milestones xs ++ milestones ys := by
  simp [milestones]

theorem milestones_connect (xs : List Exchange) :
    milestones (⟨.connect,none⟩ :: xs) = .connectionOpened :: milestones xs := rfl

theorem Channel.milestones_parting (c : Channel) (replies : Replies) : milestones (c.parting replies) =
    (if c.hasChannel then [.channelClosing] else []) ++ if c.hasConnection then [.connectionClosing] else [] := by
  unfold parting
  cases c.hasChannel <;> cases c.hasConnection <;> rfl

theorem Channel.Releases.of_ordinary (h : c.Releases replies r) (ordinary : replies.Ordinary) :
    r.fault = none ∧ r.channel = c.bare ∧ exchanges replies r.acts = c.parting replies := by
  cases h with
  | all fault channel passed calm => exact ⟨fault,channel,passed⟩
  | cutAtChannel g grave refused => simp [isOrdinary_ofCall ordinary refused] at grave
  | cutAtConnection g grave refused => simp [isOrdinary_ofCall ordinary refused] at grave

theorem Channel.Releases.endpoint (h : c.Releases replies r) : r.channel.endpoint = c.endpoint := by
  cases h with
  | all fault channel => rw [channel,Channel.bare]
  | cutAtChannel g grave refused held fault channel => rw [channel]
  | cutAtConnection g grave refused held fault channel => rw [channel]

theorem Channel.Connects.endpoint (h : c.Connects replies r) : r.channel.endpoint = c.endpoint := by
  cases h with
  | refused f refused fault channel => rw [channel]
  | ready answered served fault channel => rw [channel,Channel.half]
  | broken f grave held xs answered stumbles fault channel => rw [channel,Channel.half]
  | undone f calm held xs u answered stumbles releases fault channel =>
    have same : u.channel.endpoint = c.endpoint := releases.endpoint
    rw [channel]
    split <;> exact same

theorem Channel.endpoint_close (c : Channel) (replies : Replies) :
    (c.close replies).channel.endpoint = c.endpoint := by
  obtain ⟨-,-,channel⟩ := c.close_eq replies
  have same : (c.parted.release replies).channel.endpoint = c.endpoint :=
    (Channel.releases_release c.parted replies).endpoint
  rw [channel]
  split <;> exact same

variable {f : Fault} {held : Bool} {xs : List Exchange}

theorem Channel.Stumbles.refused (h : Channel.Stumbles replies f held xs) :
    ∃ site, replies.ofCall site = some f := by
  cases h with
  | opening refused => exact ⟨_,refused⟩
  | limiting opened refused => exact ⟨_,refused⟩

theorem Channel.Stumbles.refusal? (h : Channel.Stumbles replies f held xs) {e : Endpoint}
    (answered : (Channel.dial e replies).2 = none) : e.refusal? replies = some f := by
  cases h with
  | opening refused => simp [Endpoint.refusal?,answered,refused]
  | limiting opened refused => simp [Endpoint.refusal?,answered,opened,refused]

theorem Channel.Stumbles.milestones (h : Channel.Stumbles replies f held xs) :
    milestones xs = if held then [.channelOpened] else [] := by
  cases h <;> rfl

theorem Channel.Stumbles.wholeLife (h : Channel.Stumbles replies f held xs) :
    Amqp.milestones (⟨.connect,none⟩ :: xs ++ (c.half held).parting replies) = wholeLife held := by
  rw [List.cons_append,milestones_connect,milestones_append,h.milestones,Channel.milestones_parting]
  cases held <;> rfl

end

namespace Career

variable {k : Career} {replies : Replies}

theorem sound_start (e : Endpoint) : (start e).Sound where
  ready := by simp [start,Channel.fresh]
  rests _ := ⟨.inl rfl,rfl,rfl⟩
  lives := ⟨[],rfl⟩

theorem Sound.bare (h : k.Sound) (free : k.channel.hasConnection = false) : k.channel.hasChannel = false := by
  have idle : k.channel.stage ≠ .ready := fun hr => by simp [(h.ready.mp hr).2] at free
  exact (h.rests idle).2.1

theorem lifeSoFar_of_bare {c : Channel} (connection : c.hasConnection = false) (channel : c.hasChannel = false) :
    c.lifeSoFar = [] := by
  simp [Channel.lifeSoFar,connection,channel]

/-- A channel that has come to hold nothing, after the life of one more connection or of none. -/
theorem Sound.rest (h : k.Sound) (lives : List Bool) {c : Channel} {more : List Milestone} {fault : Option Fault}
    (stage : c.stage = .disconnected ∨ c.stage = .closed) (connection : c.hasConnection = false)
    (channel : c.hasChannel = false) (lived : k.channel.lifeSoFar ++ more = lives.flatMap wholeLife) :
    Sound ⟨c,k.past ++ more,fault⟩ := by
  obtain ⟨before,past⟩ := h.lives
  have idle : c.stage ≠ .ready := by
    rcases stage with hs | hs <;> simp [hs]
  refine ⟨⟨fun hr => absurd hr idle,fun held => ?_⟩,fun _ => ⟨stage,channel,connection⟩,before ++ lives,?_⟩
  · simp [channel] at held
  · rw [lifeSoFar_of_bare connection channel,List.append_nil,List.flatMap_append,past,List.append_assoc,lived]

/-- A channel that connects is ready, or it raises the first fault that came up, whatever comes back as it
gives up what it had opened. -/
theorem Sound.connect (h : k.Sound) (free : k.channel.hasConnection = false) (ordinary : replies.Ordinary) :
    (k.next (.connect replies)).Sound ∧
      (k.next (.connect replies)).fault = k.channel.endpoint.refusal? replies := by
  have bare := h.bare free
  have none_yet := lifeSoFar_of_bare free bare
  simp only [next,Channel.meet,Occurrence.replies]
  have course : k.channel.Connects replies (k.channel.connect replies) := Channel.connects_connect bare
  cases course with
  | refused f refused fault channel passed =>
    have calm := Channel.isOrdinary_dial ordinary refused
    have idle : milestones (exchanges replies (k.channel.connect replies).acts) = [] := by
      rcases passed with nothing | called
      · rw [nothing]
        rfl
      · rw [called]
        rfl
    rw [calm,if_pos rfl] at channel
    rw [channel,idle,fault]
    refine ⟨h.rest [] (.inl rfl) ?_ ?_ ?_,by simp [Endpoint.refusal?,refused]⟩
    · exact free
    · exact bare
    · rw [none_yet]
      rfl
  | ready answered served fault channel passed =>
    obtain ⟨lives,past⟩ := h.lives
    rw [none_yet,List.append_nil] at past
    rw [channel,passed,fault]
    refine ⟨⟨iff_of_true rfl ⟨rfl,rfl⟩,fun still => absurd rfl still,lives,?_⟩,?_⟩
    · rw [past]
      rfl
    · have opened := served .openChannel (by simp)
      have limited := served .qos (by simp)
      simp [Endpoint.refusal?,answered,opened,limited]
  | broken f grave held xs answered stumbles =>
    obtain ⟨site,refused⟩ := stumbles.refused
    simp [Channel.isOrdinary_ofCall ordinary refused] at grave
  | undone f calm held xs u answered stumbles releases fault channel passed =>
    obtain ⟨silent,bared,parted⟩ := releases.of_ordinary ordinary
    rw [silent,Option.isNone_none,if_pos rfl,bared] at channel
    rw [channel,passed,fault,parted,silent,stumbles.wholeLife]
    refine ⟨h.rest [held] (.inl rfl) rfl rfl ?_,(stumbles.refusal? answered).symm⟩
    rw [none_yet]
    exact (List.append_nil _).symm

theorem Sound.close (h : k.Sound) (ordinary : replies.Ordinary) :
    (k.next (.close replies)).Sound ∧ (k.next (.close replies)).fault = none ∧
      (k.next (.close replies)).channel.pending.size = 0 := by
  obtain ⟨passed,fault,channel⟩ := k.channel.close_eq replies
  obtain ⟨silent,bared,parted⟩ := (Channel.releases_release k.channel.parted replies).of_ordinary ordinary
  rw [silent,Option.isNone_none,if_pos rfl,bared] at channel
  simp only [next,Channel.meet,Occurrence.replies]
  rw [channel,passed,fault,parted,silent]
  refine ⟨h.rest (if k.channel.hasConnection then [true] else []) (.inr rfl) rfl rfl ?_,rfl,rfl⟩
  rw [Channel.milestones_parting]
  -- the connection that is held, if there is one, has its channel
  by_cases hr : k.channel.stage = .ready
  · obtain ⟨channel,connection⟩ := h.ready.mp hr
    simp [Channel.lifeSoFar,Channel.parted,channel,connection,wholeLife]
  · obtain ⟨-,channel,connection⟩ := h.rests hr
    simp [Channel.lifeSoFar,Channel.parted,channel,connection]

theorem Sound.traffic (h : k.Sound) (pending : Pending Delivery) : (k.next (.traffic pending)).Sound := by
  obtain ⟨lives,past⟩ := h.lives
  refine ⟨h.ready,h.rests,lives,?_⟩
  simp only [next,Channel.meet,exchanges_nil]
  exact (List.append_nil _).trans past

theorem Sound.next (h : k.Sound) {o : Occurrence} (fits : o.Fits k.channel) : (k.next o).Sound := by
  cases o with
  | connect replies => exact (h.connect fits.1 fits.2).1
  | close replies => exact (h.close fits).1
  | traffic pending => exact h.traffic pending

theorem Sound.endpoint_next (h : k.Sound) {o : Occurrence} (fits : o.Fits k.channel) :
    (k.next o).channel.endpoint = k.channel.endpoint := by
  cases o with
  | connect replies =>
    have course : k.channel.Connects replies _ := Channel.connects_connect (h.bare fits.1)
    exact course.endpoint
  | close replies => exact k.channel.endpoint_close replies
  | traffic pending => rfl

theorem Sound.endpoint_after (h : k.Sound) {os : List Occurrence} (allows : k.Allows os) :
    (k.after os).channel.endpoint = k.channel.endpoint := by
  induction os generalizing k with
  | nil => rfl
  | cons o os ih => exact (ih (h.next allows.1) allows.2).trans (h.endpoint_next allows.1)

theorem Sound.after (h : k.Sound) {os : List Occurrence} (allows : k.Allows os) : (k.after os).Sound := by
  induction os generalizing k with
  | nil => exact h
  | cons o os ih => exact ih (h.next allows.1) allows.2

theorem allows_append {os more : List Occurrence} (allows : k.Allows (os ++ more)) :
    k.Allows os ∧ (k.after os).Allows more := by
  induction os generalizing k with
  | nil => exact ⟨trivial,allows⟩
  | cons o os ih =>
    obtain ⟨rest,last⟩ := ih allows.2
    exact ⟨⟨allows.1,rest⟩,last⟩

/-- After every occurrence in the life of a channel: it is ready and holds a channel and a connection, or it
holds neither, and is disconnected or closed; and of all that it has opened and does not hold any more, each
part was closed once, the channel before its connection. A connection raises the first fault that comes up,
if one does, and a closing raises none and leaves nothing pending. -/
theorem sound_of_allowed (e : Endpoint) (os : List Occurrence) (o : Occurrence)
    (allows : (start e).Allows (os ++ [o])) :
    let k := ((start e).after os).next o
    k.Sound ∧ (∀ replies, o = .connect replies → k.fault = e.refusal? replies) ∧
      ∀ replies, o = .close replies → k.fault = none ∧ k.channel.pending.size = 0 := by
  obtain ⟨before,fits,-⟩ := allows_append allows
  have sound := (sound_start e).after before
  have same : ((start e).after os).channel.endpoint = e := (sound_start e).endpoint_after before
  refine ⟨sound.next fits,?_,?_⟩
  · rintro replies rfl
    rw [(sound.connect fits.1 fits.2).2,same]
  · rintro replies rfl
    exact (sound.close fits).2

/-- A first connection is set up in vain and given up badly, a second is used. -/
def secondTry : List Occurrence :=
  [.connect (failsAt [.qos, .closeChannel, .closeConnection]), .connect (failsAt []),
    .traffic (Pending.empty.track 1 (.numbered 1 1))]

theorem sound_of_second_try :
    let o : Occurrence := .close (failsAt [.closeChannel, .closeConnection])
    let k := ((start Channel.nearby.endpoint).after secondTry).next o
    (start Channel.nearby.endpoint).Allows (secondTry ++ [o]) ∧ k.Sound ∧ k.fault = none ∧
      k.channel.pending.size = 0 ∧ k.past = wholeLife true ++ wholeLife true := by
  intro o k
  have allows : (start Channel.nearby.endpoint).Allows (secondTry ++ [o]) :=
    ⟨⟨rfl,ordinary_failsAt _⟩,⟨by decide +kernel,ordinary_failsAt _⟩,trivial,ordinary_failsAt _,trivial⟩
  obtain ⟨sound,-,closed⟩ := sound_of_allowed Channel.nearby.endpoint secondTry o allows
  obtain ⟨fault,size⟩ := closed _ rfl
  exact ⟨allows,sound,fault,size,by decide +kernel⟩

end Career
end Baler.Amqp
