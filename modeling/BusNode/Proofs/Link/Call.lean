/-
This file lists the calls that an application can make on a link, and says in which ways each of
them can go. A call is made of elementary steps, or it sends raw bytes. Where a link is used for
sending in any other way than raw, it awaits nothing.
-/
import BusNode.Proofs.Link.Send

namespace BusNode.Link

/-! ### Calls -/

/-- What an application can ask of a link. -/
inductive Call where
  | service
  | sendRaw (bytes : List UInt8)
  | slaveSend (patience : Nat) (frame : List UInt8)
  | masterSend (patience : Nat) (frame : List UInt8)
  | writeRegister (patience : Nat) (slaveId : UInt8) (address value : UInt16)
  | readRegisters (patience : Nat) (slaveId : UInt8) (address count : UInt16)
  | commandRelay (patience : Nat) (slaveId relay : UInt8) (command : RelayCommand)
      (seconds : UInt8)
  | setSlaveId (id : UInt8)
  | setPacketLogging (enabled : Bool)

/-- How a call came out. -/
inductive Answer where
  | done
  | refused (error : Error)
  /-- The caller's patience ran out while a reply was still awaited. -/
  | waiting
  deriving DecidableEq

namespace Answer

def ofSend : SendResult → Answer
  | .sent => .done
  | .refused error => .refused error
  | .waiting => .waiting

def ofResult : Except Error Unit → Answer
  | .ok () => .done
  | .error error => .refused error

/-- An answer to a send tells how the send came out. -/
theorem ofSend_injective {result other : SendResult} (same : ofSend result = ofSend other) :
    result = other := by
  cases result <;> cases other <;> cases same <;> rfl

end Answer

namespace Call

/-- The request that a call by name stands for. -/
def named? : Call → Option (Nat × Except Error Frame)
  | writeRegister patience slaveId address value =>
    some (patience, Request.writeSingle slaveId address value)
  | readRegisters patience slaveId address count =>
    some (patience, Request.readHolding slaveId address count)
  | commandRelay patience slaveId relay command seconds =>
    some (patience, Request.relay slaveId relay command seconds)
  | _ => none

/-- The frame that a call sends as the request of a master, its checksum left out. -/
def request? : Call → Option (List UInt8)
  | masterSend _ frame => some frame
  | call =>
    match call.named? with
    | some (_, .ok frame) => some frame.bytes
    | _ => none

/-- How many steps a call is ready to wait for the end of an exchange. -/
def patience? : Call → Option Nat
  | slaveSend patience _ | masterSend patience _ => some patience
  | call => call.named?.map Prod.fst

theorem request?_of_named {call : Call} {patience : Nat} {frame : Frame}
    (named : call.named? = some (patience, .ok frame)) : call.request? = some frame.bytes := by
  cases call with
  | writeRegister | readRegisters | commandRelay => simp only [request?, named]
  | _ => cases named

theorem request?_of_malformed {call : Call} {patience : Nat} {error : Error}
    (named : call.named? = some (patience, .error error)) : call.request? = none := by
  cases call with
  | writeRegister | readRegisters | commandRelay => simp only [request?, named]
  | _ => cases named

/-- Makes a call. -/
def perform {World : Type} [Clock World] [Line World] [Journal World] [Listener World]
    (call : Call) (link : Link) : StateM World (Answer × Link) := do
  match call with
  | service => return (.done, ← link.service)
  | sendRaw bytes =>
    let (result, link) ← link.transmit bytes
    return (.ofResult result, link)
  | slaveSend patience frame =>
    let (result, link) ← link.slaveSend patience frame
    return (.ofSend result, link)
  | masterSend patience frame =>
    let (result, link) ← link.masterSend patience frame
    return (.ofSend result, link)
  | writeRegister patience slaveId address value =>
    let (result, link) ← link.writeRegister patience slaveId address value
    return (.ofSend result, link)
  | readRegisters patience slaveId address count =>
    let (result, link) ← link.readRegisters patience slaveId address count
    return (.ofSend result, link)
  | commandRelay patience slaveId relay command seconds =>
    let (result, link) ← link.commandRelay patience slaveId relay command seconds
    return (.ofSend result, link)
  | setSlaveId id =>
    match link.setSlaveId id with
    | .error error => return (.refused error, link)
    | .ok link => return (.done, link)
  | setPacketLogging enabled => return (.done, link.setPacketLogging enabled)

end Call

/-! ### The ways in which a call can go -/

/-- The ways in which a call can go. -/
inductive Performed (link : Link) : Call → Answer → List Effect → Link → Prop where
  | service {effects : List Effect} {next : Link} (serviced : Serviced link effects next) :
      Performed link .service .done effects next
  | sendRaw {bytes : List UInt8} {result : Except Error Unit} {effects : List Effect} {next : Link}
      (transmission : Transmission bytes link result effects next) :
      Performed link (.sendRaw bytes) (.ofResult result) effects next
  | slaveSend {patience : Nat} {frame : List UInt8} {result : SendResult} {effects : List Effect}
      {next : Link} (delivery : Delivery frame link result effects next) :
      Performed link (.slaveSend patience frame) (.ofSend result) effects next
  | masterSend {patience : Nat} {frame : List UInt8} {result : SendResult} {effects : List Effect}
      {next : Link} (requested : Requested frame link result effects next) :
      Performed link (.masterSend patience frame) (.ofSend result) effects next
  | named {call : Call} {patience : Nat} {built : Except Error Frame} {result : SendResult}
      {effects : List Effect} {next : Link} (named : call.named? = some (patience, built))
      (asked : Asked link built result effects next) :
      Performed link call (.ofSend result) effects next
  | setSlaveId {id : UInt8} (assigned : Config.checkSlaveId id = .ok ()) :
      Performed link (.setSlaveId id) .done []
        { link with config := { link.config with slaveId := id } }
  | keepSlaveId {id : UInt8} {error : Error} (refused : Config.checkSlaveId id = .error error) :
      Performed link (.setSlaveId id) (.refused error) [] link
  | setPacketLogging {enabled : Bool} :
      Performed link (.setPacketLogging enabled) .done [] (link.setPacketLogging enabled)

section Performs

variable {World : Type} [Clock World] [Line World] [Journal World] [Listener World]

/-- A send that is made by a call goes the way the send goes. -/
theorem perform_send_traces {link : Link} {send : StateM (Recorded World) (SendResult × Link)}
    {plain : StateM World (SendResult × Link)}
    {shows : SendResult → List Effect → Link → Prop} {call : Call}
    (traces : Traces World send plain fun outcome effects => shows outcome.1 effects outcome.2)
    (goes : ∀ result effects next, shows result effects next →
      Performed link call (.ofSend result) effects next) :
    Traces World (send >>= fun outcome => pure (Answer.ofSend outcome.1, outcome.2))
      (plain >>= fun outcome => pure (Answer.ofSend outcome.1, outcome.2))
      fun outcome effects => Performed link call outcome.1 effects outcome.2 := by
  refine .bind traces fun outcome effects shown => ?_
  exact .pure (by simpa using goes _ _ _ shown)

/-- Every call goes one of the ways that `Performed` lists. -/
theorem perform_traces (call : Call) (link : Link) :
    Traces World (call.perform link) (call.perform link) fun outcome effects =>
      Performed link call outcome.1 effects outcome.2 := by
  cases call with
  | service =>
    refine .bind (service_traces link) fun next effects serviced => ?_
    exact .pure (by simpa using Performed.service serviced)
  | sendRaw bytes =>
    refine .bind (transmit_traces bytes link) fun outcome effects transmission => ?_
    exact .pure (by simpa using Performed.sendRaw transmission)
  | slaveSend patience frame =>
    exact perform_send_traces (deliver_traces patience frame link) fun _ _ _ => .slaveSend
  | masterSend patience frame =>
    exact perform_send_traces (masterSend_traces patience frame link) fun _ _ _ => .masterSend
  | writeRegister | readRegisters | commandRelay =>
    exact perform_send_traces (request_traces _ _ link) fun _ _ _ => .named rfl
  | setSlaveId id =>
    cases assigned : Config.checkSlaveId id with
    | error error =>
      have kept : link.setSlaveId id = .error error := by rw [Link.setSlaveId, assigned]
      simp only [Call.perform, kept]
      exact .pure (.keepSlaveId assigned)
    | ok =>
      have given : link.setSlaveId id =
          .ok { link with config := { link.config with slaveId := id } } := by
        rw [Link.setSlaveId, assigned]
      simp only [Call.perform, given]
      exact .pure (.setSlaveId assigned)
  | setPacketLogging enabled => exact .pure .setPacketLogging

end Performs

/-! ### Elementary steps -/

/-- What a link does in one go, raw sends left out. -/
inductive Step : Link → List Effect → Link → Prop where
  | serviced {link next : Link} {effects : List Effect} (serviced : Serviced link effects next) :
      Step link effects next
  | built {link : Link} (frame : Frame) : Step link (builtEffects frame) link
  | configured {link : Link} (config : Config) (baudRate : config.baudRate = link.config.baudRate)
      (replyTimeout : config.replyTimeout = link.config.replyTimeout) :
      Step link [] { link with config }
  | refused {link next : Link} {frame : List UInt8} {error : Error} (free : link.isBusy = false)
      (load : link.load frame = (.error error, next)) : Step link [] next
  | delivered {link loaded next : Link} {frame : List UInt8} {result : Except Error Unit}
      {effects : List Effect} (free : link.isBusy = false)
      (load : link.load frame = (.ok (), loaded))
      (transmission : Transmission loaded.outbound.bytes loaded result effects next) :
      Step link effects next
  | requested {link loaded middle next : Link} {frame : List UInt8} {effects later : List Effect}
      (free : link.isBusy = false) (load : link.load frame = (.ok (), loaded))
      (transmission : Transmission loaded.outbound.bytes loaded (.ok ()) effects middle)
      (armed : Armed middle later next) : Step link (effects ++ later) next

/-- A row of elementary steps. -/
inductive Steps : Link → List Effect → Link → Prop where
  | done {link : Link} : Steps link [] link
  | step {link middle next : Link} {effects later : List Effect} (step : Step link effects middle)
      (rest : Steps middle later next) : Steps link (effects ++ later) next

namespace Steps

theorem single {link next : Link} {effects : List Effect} (step : Step link effects next) :
    Steps link effects next := by
  simpa only [List.append_nil] using Steps.step step .done

theorem trans {link middle next : Link} {effects later : List Effect}
    (first : Steps link effects middle) (rest : Steps middle later next) :
    Steps link (effects ++ later) next := by
  induction first with
  | done => exact rest
  | step step _ inductionHypothesis =>
    rw [List.append_assoc]
    exact .step step (inductionHypothesis rest)

end Steps

theorem Pumped.steps {link next : Link} {effects : List Effect}
    (pumped : Pumped link effects next) : Steps link effects next := by
  induction pumped with
  | done => exact .done
  | step _ serviced _ inductionHypothesis => exact .step (.serviced serviced) inductionHypothesis

theorem Delivery.steps {frame : List UInt8} {link next : Link} {result : SendResult}
    {effects : List Effect} (delivery : Delivery frame link result effects next) :
    Steps link effects next := by
  cases delivery with
  | waiting pumped _ => exact pumped.steps
  | refused pumped free load =>
    simpa only [List.append_nil] using pumped.steps.trans (.single (.refused free load))
  | failed pumped free load transmission | sent pumped free load transmission =>
    exact pumped.steps.trans (.single (.delivered free load transmission))

theorem Requested.steps {frame : List UInt8} {link next : Link} {result : SendResult}
    {effects : List Effect} (requested : Requested frame link result effects next) :
    Steps link effects next := by
  cases requested with
  | unfit _ => exact .done
  | unsent _ delivery _ => exact delivery.steps
  | sent _ delivery armed =>
    cases delivery with
    | sent pumped free load transmission =>
      rw [List.append_assoc]
      exact pumped.steps.trans (.single (.requested free load transmission armed))

theorem Asked.steps {link next : Link} {built : Except Error Frame} {result : SendResult}
    {effects : List Effect} (asked : Asked link built result effects next) :
    Steps link effects next := by
  cases asked with
  | malformed _ => exact .done
  | built requested => exact .step (.built _) requested.steps

/-- A call that does not send raw bytes is a row of elementary steps. -/
theorem Performed.steps {link next : Link} {call : Call} {answer : Answer} {effects : List Effect}
    (performed : Performed link call answer effects next)
    (cooked : ∀ bytes, call ≠ .sendRaw bytes) : Steps link effects next := by
  cases performed with
  | service serviced => exact .single (.serviced serviced)
  | sendRaw _ => exact absurd rfl (cooked _)
  | slaveSend delivery => exact delivery.steps
  | masterSend requested => exact requested.steps
  | named _ asked => exact asked.steps
  | setSlaveId _ => exact .single (.configured _ rfl rfl)
  | keepSlaveId _ => exact .done
  | setPacketLogging => exact .single (.configured _ rfl rfl)

end BusNode.Link
