/-
This file counts the reports in a history by their kind, and pairs every kind of outcome with the
counter that a link keeps for it. It also lists which steps are quiet: they give no report, begin
no wait and end none. A step of a link is made of quiet parts and of reports, so what those keep
is kept by every step.
-/
import BusNode.Proofs.Link.Session

namespace BusNode

/-! ### Kinds of outcomes -/

namespace Link

/-- What an outcome is, its fault left out. -/
inductive Outcome.Kind where
  | replyAccepted
  | replyTimedOut
  | replyRefused
  | requestForUs
  | requestForOther
  | requestInvalid
  deriving DecidableEq

def Outcome.kind : Outcome → Kind
  | replyAccepted => .replyAccepted
  | replyTimedOut => .replyTimedOut
  | replyRefused _ => .replyRefused
  | requestForUs => .requestForUs
  | requestForOther => .requestForOther
  | requestInvalid _ => .requestInvalid

/-- The counter for a kind of outcomes. -/
def Stats.tally (kind : Outcome.Kind) (stats : Stats) : UInt32 :=
  match kind with
  | .replyAccepted => stats.repliesAccepted
  | .replyTimedOut => stats.repliesTimedOut
  | .replyRefused => stats.repliesRefused
  | .requestForUs => stats.requestsForUs
  | .requestForOther => stats.requestsForOther
  | .requestInvalid => stats.requestsInvalid

@[simp] theorem tally_count (kind : Outcome.Kind) (outcome : Outcome) (stats : Stats) :
    (stats.count outcome).tally kind = stats.tally kind + if outcome.kind = kind then 1 else 0 := by
  cases outcome <;> cases kind <;> simp [Stats.count, Stats.tally, Outcome.kind]

@[simp] theorem tally_countFrame (kind : Outcome.Kind) (overflow : Bool) (stats : Stats) :
    (stats.countFrame overflow).tally kind = stats.tally kind := by
  cases kind <;> rfl

@[simp] theorem tally_countSent (kind : Outcome.Kind) (stats : Stats) :
    stats.countSent.tally kind = stats.tally kind := by
  cases kind <;> rfl

@[simp] theorem tally_countLineError (kind : Outcome.Kind) (stats : Stats) :
    stats.countLineError.tally kind = stats.tally kind := by
  cases kind <;> rfl

end Link

/-! ### Reports in a history -/

/-- The outcome that an effect reports, if it is a report. -/
def Effect.outcome? : Effect → Option Link.Outcome
  | .report given => some given.outcome
  | _ => none

/-- Whether an effect neither gives a report nor begins a wait. -/
def Effect.aside : Effect → Bool
  | .note .waitArmed => false
  | .report _ => false
  | _ => true

theorem Effect.aside_of_incidental {effect : Effect} (incidental : effect.incidental = true) :
    effect.aside = true := by
  cases effect with
  | note notice => cases notice <;> first | rfl | cases incidental
  | report => cases incidental
  | _ => rfl

/-- Whether an effect reports an outcome of the given kind. -/
def Effect.reports (kind : Link.Outcome.Kind) (effect : Effect) : Bool :=
  effect.outcome?.any fun outcome => outcome.kind = kind

namespace Link

/-- How many reports of a kind there are in a history. -/
def reported (kind : Outcome.Kind) (history : List Effect) : Nat :=
  history.countP (Effect.reports kind)

@[simp] theorem reported_nil (kind : Outcome.Kind) : reported kind [] = 0 := rfl

@[simp] theorem reported_append (kind : Outcome.Kind) (past effects : List Effect) :
    reported kind (past ++ effects) = reported kind past + reported kind effects :=
  List.countP_append

@[simp] theorem reported_cons (kind : Outcome.Kind) (effect : Effect) (rest : List Effect) :
    reported kind (effect :: rest) =
      reported kind rest + if effect.reports kind = true then 1 else 0 :=
  List.countP_cons

/-! ### Quiet steps -/

/-- What happens between two links without a report, and without the beginning or the end of a
wait. -/
structure Quiet (link : Link) (effects : List Effect) (next : Link) : Prop where
  aside : ∀ effect ∈ effects, effect.aside = true
  waiting : next.waitingSince = link.waitingSince
  tally : ∀ kind, next.stats.tally kind = link.stats.tally kind

theorem reported_of_aside {effects : List Effect} (kind : Outcome.Kind)
    (aside : ∀ effect ∈ effects, effect.aside = true) : reported kind effects = 0 := by
  refine List.countP_eq_zero.mpr fun effect member => ?_
  have quiet := aside effect member
  cases effect with
  | report => cases quiet
  | _ => simp [Effect.reports, Effect.outcome?]

theorem Quiet.trans {link middle next : Link} {effects later : List Effect}
    (first : Quiet link effects middle) (rest : Quiet middle later next) :
    Quiet link (effects ++ later) next where
  aside := List.forall_mem_append.mpr ⟨first.aside, rest.aside⟩
  waiting := rest.waiting.trans first.waiting
  tally kind := (rest.tally kind).trans (first.tally kind)

theorem load_quiet {link next : Link} {frame : List UInt8} {result : Except Error Unit}
    (load : link.load frame = (result, next)) : Quiet link [] next := by
  obtain ⟨-, rfl⟩ := Prod.mk.inj load
  exact ⟨by simp, rfl, fun _ => rfl⟩

theorem Transmission.quiet {bytes : List UInt8} {link next : Link} {result : Except Error Unit}
    {effects : List Effect} (transmission : Transmission bytes link result effects next) :
    Quiet link effects next := by
  have aside : ∀ effect ∈ effects, effect.aside = true := fun effect member =>
    Effect.aside_of_incidental (transmission.incidental effect member)
  cases transmission with
  | failed _ => exact ⟨aside, rfl, fun kind => tally_countLineError kind _⟩
  | sent _ => exact ⟨aside, rfl, fun kind => tally_countSent kind _⟩

theorem Reception.quiet {link next : Link} {effects : List Effect}
    (reception : Reception link effects next) : Quiet link effects next := by
  cases reception with
  | nothing => exact ⟨by simp [Effect.aside], rfl, fun _ => rfl⟩
  | failed error =>
    exact ⟨by simp [Effect.aside], rfl, fun kind => tally_countLineError kind _⟩
  | byte byte now =>
    refine ⟨?_, rfl, fun _ => rfl⟩
    rw [List.forall_mem_append, List.forall_mem_append, Effect.forall_mem_noteIf]
    exact ⟨⟨by simp [Effect.aside], fun _ => rfl⟩, by simp [Effect.aside]⟩

theorem builtEffects_quiet (frame : Frame) (link : Link) :
    Quiet link (builtEffects frame) link where
  aside effect member := Effect.aside_of_incidental (builtEffects_incidental frame effect member)
  waiting := rfl
  tally _ := rfl

/-! ### Reports -/

/-- What a link reports, and the link after the report. -/
inductive Reported (link : Link) : Report → Link → Prop where
  | late (busy : link.isBusy = true) :
      Reported link { outcome := .replyTimedOut, frame := [] } link.expired
  | frame :
      Reported link { outcome := link.classify, frame := link.inbound.bytes }
        link.dispatched.cleared

namespace Reported

variable {link next : Link} {report : Report}

/-- The outcome of a reply is reported exactly if a reply is awaited. -/
theorem turn (reported : Reported link report next) :
    report.outcome.isReply = link.isBusy := by
  cases reported with
  | late busy => exact busy.symm
  | frame => exact isReply_classify link

theorem free (reported : Reported link report next) : next.isBusy = false := by
  cases reported <;> rfl

theorem tally (reported : Reported link report next) (kind : Outcome.Kind) :
    next.stats.tally kind =
      link.stats.tally kind + if report.outcome.kind = kind then 1 else 0 := by
  cases reported with
  | late _ => exact tally_count kind _ _
  | frame => simp [dispatched, cleared]

/-- A reply is accepted only if it answers the frame that was loaded last. -/
theorem answers (reported : Reported link report next)
    (accepted : report.outcome = .replyAccepted) :
    Reply.check link.outbound.bytes report.frame = .ok () := by
  cases reported with
  | late _ => cases accepted
  | frame => exact (classify_eq_replyAccepted accepted).2.2

end Reported

/-! ### What quiet steps, reports and new waits keep -/

/-- Something about a link and the history of its effects that quiet steps, reports and the
beginnings of waits keep. A quiet step may change the outbound frame only while no reply is
awaited, and a wait begins right after that frame was sent. -/
structure Watched (holds : Link → List Effect → Prop) : Prop where
  quiet {link next : Link} {past effects : List Effect} :
    holds link past → Quiet link effects next →
      (link.isBusy = true → next.outbound = link.outbound) → holds next (past ++ effects)
  report {link next : Link} {past : List Effect} {report : Report} :
    holds link past → Reported link report next → holds next (past ++ [.report report])
  armed {loaded link next : Link} {past sending effects : List Effect} :
    holds link (past ++ sending) →
      Transmission loaded.outbound.bytes loaded (.ok ()) sending link → link.isBusy = false →
        Armed link effects next → holds next (past ++ sending ++ effects)

namespace Watched

variable {holds : Link → List Effect → Prop} {link next : Link} {past effects : List Effect}

/-- What neither sends nor begins a wait may be left out of sight. -/
theorem still (watched : Watched holds) (held : holds link past) (quiet : Quiet link effects next)
    (outbound : next.outbound = link.outbound) : holds next (past ++ effects) :=
  watched.quiet held quiet fun _ => outbound

theorem deadline (watched : Watched holds) (held : holds link past)
    (deadline : Deadline link effects next) : holds next (past ++ effects) := by
  cases deadline with
  | idle _ => exact watched.still held ⟨by simp, rfl, fun _ => rfl⟩ rfl
  | early _ _ => exact watched.still held ⟨by simp [Effect.aside], rfl, fun _ => rfl⟩ rfl
  | @late since now waiting _ =>
    have noted : holds link (past ++ [.millis now, .note .waitTimedOut]) :=
      watched.still held ⟨by simp [Effect.aside], rfl, fun _ => rfl⟩ rfl
    have reported := watched.report noted (.late (by simp [isBusy, waiting]))
    simpa using reported

theorem silence (watched : Watched holds) (held : holds link past)
    (silence : Silence link effects next) : holds next (past ++ effects) := by
  cases silence with
  | idle _ => exact watched.still held ⟨by simp, rfl, fun _ => rfl⟩ rfl
  | soon _ _ => exact watched.still held ⟨by simp [Effect.aside], rfl, fun _ => rfl⟩ rfl
  | blank _ _ _ => exact watched.still held ⟨by simp [Effect.aside], rfl, fun _ => rfl⟩ rfl
  | @frame last now _ _ _ =>
    have asked : holds link (past ++ [.micros now, .note .silence]) :=
      watched.still held ⟨by simp [Effect.aside], rfl, fun _ => rfl⟩ rfl
    have noted : holds link (past ++ [.micros now, .note .silence] ++ link.dispatchNotes) :=
      watched.still asked ⟨fun effect member => Effect.aside_of_incidental
        (dispatchNotes_incidental link effect member), rfl, fun _ => rfl⟩ rfl
    have reported := watched.report noted .frame
    simpa [dispatchEffects] using reported

theorem serviced (watched : Watched holds) (held : holds link past)
    (serviced : Serviced link effects next) : holds next (past ++ effects) := by
  obtain ⟨deadline, silence, reception⟩ := serviced
  rw [← List.append_assoc, ← List.append_assoc]
  refine watched.still (watched.silence (watched.deadline held deadline) silence) reception.quiet ?_
  cases reception <;> rfl

/-- What is watched is kept by all elementary steps and raw sends. -/
theorem kept (watched : Watched holds) : Kept holds where
  step held step := by
    cases step with
    | serviced serviced => exact watched.serviced held serviced
    | built frame => exact watched.still held (builtEffects_quiet frame _) rfl
    | configured _ _ _ => exact watched.still held ⟨by simp, rfl, fun _ => rfl⟩ rfl
    | refused free load =>
      exact watched.quiet held (load_quiet load) fun busy => absurd busy (by simp [free])
    | delivered free load transmission =>
      exact watched.quiet held ((load_quiet load).trans transmission.quiet) fun busy =>
        absurd busy (by simp [free])
    | @requested loaded middle _ _ sending later free load transmission armed =>
      have quiet : Quiet _ sending middle := (load_quiet load).trans transmission.quiet
      have sent : holds middle (_ ++ sending) :=
        watched.quiet held quiet fun busy => absurd busy (by simp [free])
      rw [← List.append_assoc]
      refine watched.armed sent transmission ?_ armed
      rw [isBusy, quiet.waiting]
      exact free
  raw held transmission := watched.still held transmission.quiet transmission.outbound

end Watched

end Link

end BusNode
