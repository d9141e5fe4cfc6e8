import LeastPrivilege.Tunnel
import LeastPrivilege.Proofs.ClusterReplies

/-!
The life of a tunnel's process. What is owed to a process changes with each exchange with the system
(`Custody.Step`); where nothing is owed in the end, every process that was started was seen to have
exited, or ended when it was asked to, or was killed and waited for (`Custody.allGone`). Every way
in which opening can fail leaves nothing owed (`Tunnel.openWithin_entered`), so does every use, and
so does any sequence of uses (`Tunnel.duringEach_ended`). All this holds for every limit on the
turns of a wait.
-/

namespace LeastPrivilege

/-! ## Custody -/

/-- What is owed to a process. -/
inductive Custody where
  /-- There is no process. -/
  | free
  /-- It may be running. -/
  | held (p : ProcessRef)
  /-- It was asked to end. -/
  | asked (p : ProcessRef)
  /-- It did not end in time. -/
  | resisting (p : ProcessRef)
  /-- It was killed. -/
  | killed (p : ProcessRef)

/-- The exchange is about starting a process. -/
def Exchange.isStart (e : Exchange system) : Bool :=
  match e.question with
  | .start _ => true
  | _ => false

/-- The exchange does nothing to a process. -/
def Exchange.isIdle (e : Exchange system) : Bool :=
  match e.question with
  | .findForwarder | .report _ | .connect .. | .clock | .sleep => true
  | _ => false

theorem Exchange.isStart_of_isIdle {e : Exchange system} (h : e.isIdle = true) :
    e.isStart = false := by
  obtain ⟨q, a⟩ := e
  cases q with
  | start command => cases h
  | _ => rfl

/-- How often a process was to be started. -/
def starts (log : List (Exchange system)) : Nat :=
  log.countP Exchange.isStart

@[simp] theorem starts_append (log log' : List (Exchange system)) :
    starts (log ++ log') = starts log + starts log' :=
  List.countP_append

@[simp] theorem starts_cons (e : Exchange system) (log : List (Exchange system)) :
    starts (e :: log) = starts log + if e.isStart then 1 else 0 :=
  List.countP_cons

namespace Custody

/-- What is owed before and after an exchange. A process is started only where none is held, and
what is owed to it ends when it is seen to have exited, when it ended after it was asked to, or when
it was waited for after it was killed. -/
inductive Step : Custody → Exchange system → Custody → Prop
  | idle (c : Custody) {e : Exchange system} (h : e.isIdle = true) : Step c e c
  | started (command : List Text) (p : ProcessRef) : Step free ⟨.start command, .ok p⟩ (held p)
  | notStarted (command : List Text) (reason : Text) :
    Step free ⟨.start command, .error reason⟩ free
  | running (p : ProcessRef) : Step (held p) ⟨.poll p, none⟩ (held p)
  | exited (p : ProcessRef) (code : Int) : Step (held p) ⟨.poll p, some code⟩ free
  | terminated (p : ProcessRef) : Step (held p) ⟨.terminate p, ()⟩ (asked p)
  | ended (p : ProcessRef) (limit : Nat) : Step (asked p) ⟨.wait p (some limit), true⟩ free
  | stayed (p : ProcessRef) (limit : Nat) :
    Step (asked p) ⟨.wait p (some limit), false⟩ (resisting p)
  | killed (p : ProcessRef) : Step (resisting p) ⟨.kill p, ()⟩ (killed p)
  | reaped (p : ProcessRef) (answer : Bool) : Step (killed p) ⟨.wait p none, answer⟩ free

/-- What is owed before and after exchanges. -/
inductive Steps : Custody → List (Exchange system) → Custody → Prop
  | nil (c : Custody) : Steps c [] c
  | cons {c c' c'' : Custody} {e : Exchange system} {log : List (Exchange system)}
    (h : Step c e c') (hlog : Steps c' log c'') : Steps c (e :: log) c''

theorem Steps.append {c c' c'' : Custody} {log log' : List (Exchange system)}
    (h : Steps c log c') (h' : Steps c' log' c'') : Steps c (log ++ log') c'' := by
  induction h with
  | nil c => exact h'
  | cons hstep _ ih => exact .cons hstep (ih h')

/-- What is owed in between is owed before the rest. -/
theorem Steps.split {c c'' : Custody} : ∀ {log log' : List (Exchange system)},
    Steps c (log ++ log') c'' → ∃ c', Steps c log c' ∧ Steps c' log' c''
  | [], _, h => ⟨c, .nil c, h⟩
  | _ :: _, _, .cons hstep h => by
    obtain ⟨c', hlog, hlog'⟩ := Steps.split h
    exact ⟨c', .cons hstep hlog, hlog'⟩

end Custody

/-! ## How a process goes -/

/-- The exchanges after the start of a process at whose end nothing is owed to it any more: it was
seen to have exited, or it ended after it was asked to, or it was killed when it did not, and waited
for. -/
inductive Gone (p : ProcessRef) : List (Exchange system) → Prop
  | exited (l : List (Exchange system)) (code : Int) : Gone p (l ++ [⟨.poll p, some code⟩])
  | stopped (l m : List (Exchange system)) (limit : Nat) :
    Gone p (l ++ ⟨.terminate p, ()⟩ :: (m ++ [⟨.wait p (some limit), true⟩]))
  | killed (l m n k : List (Exchange system)) (limit : Nat) (answer : Bool) :
    Gone p (l ++ ⟨.terminate p, ()⟩ :: (m ++ ⟨.wait p (some limit), false⟩ ::
      (n ++ ⟨.kill p, ()⟩ :: (k ++ [⟨.wait p none, answer⟩]))))

/-- Every process that was started was gone before another was to be started. -/
def AllGone (log : List (Exchange system)) : Prop :=
  ∀ before command p after, log = before ++ ⟨.start command, .ok p⟩ :: after →
    ∃ life rest, after = life ++ rest ∧ starts life = 0 ∧ Gone p life

namespace Custody

variable {c c' : Custody} {p : ProcessRef} {e : Exchange system} {log : List (Exchange system)}

/-- No process is started where there is one. -/
theorem Step.isStart (h : Step c e c') (hc : c ≠ .free) : e.isStart = false := by
  cases h with
  | idle _ hidle => exact Exchange.isStart_of_isIdle hidle
  | started => exact absurd rfl hc
  | notStarted => exact absurd rfl hc
  | _ => rfl

/-- What is owed changes, if nothing is in the end, and no process is started before that. -/
theorem Steps.exists_change (h : Steps c log .free) (hc : c ≠ .free) : ∃ l e rest c',
    log = l ++ e :: rest ∧ starts l = 0 ∧ c' ≠ c ∧ Step c e c' ∧ Steps c' rest .free := by
  generalize hfree : Custody.free = last at h
  induction h with
  | nil c => exact absurd hfree.symm hc
  | @cons c c' _ e rest hstep hrest ih =>
    subst hfree
    by_cases hsame : c' = c
    · subst hsame
      obtain ⟨l, e', rest, c'', rfl, hl, hchange⟩ := ih hc rfl
      refine ⟨e :: l, e', rest, c'', rfl, ?_, hchange⟩
      rw [starts_cons, hl, hstep.isStart hc]
      rfl
    · exact ⟨[], e, rest, c', rfl, rfl, hsame, hstep, hrest⟩

theorem gone_of_held (h : Steps (.held p) log .free) :
    ∃ life rest, log = life ++ rest ∧ starts life = 0 ∧ Gone p life := by
  obtain ⟨l, e, rest, c', rfl, hl, hnew, hstep, hrest⟩ := h.exists_change nofun
  cases hstep with
  | idle => exact absurd rfl hnew
  | running => exact absurd rfl hnew
  | exited _ code =>
    refine ⟨l ++ [⟨.poll p, some code⟩], rest, by simp, ?_, .exited l code⟩
    rw [starts_append, hl]
    rfl
  | terminated =>
    obtain ⟨m, e, rest, c', rfl, hm, hnew, hstep, hrest⟩ := hrest.exists_change nofun
    cases hstep with
    | idle => exact absurd rfl hnew
    | ended _ limit =>
      refine ⟨_, rest, ?_, ?_, .stopped l m limit⟩
      · simp
      · rw [starts_append, starts_cons, starts_append, hl, hm]
        rfl
    | stayed _ limit =>
      obtain ⟨n, e, rest, c', rfl, hn, hnew, hstep, hrest⟩ := hrest.exists_change nofun
      cases hstep with
      | idle => exact absurd rfl hnew
      | killed =>
        obtain ⟨k, e, rest, c', rfl, hk, hnew, hstep, -⟩ := hrest.exists_change nofun
        cases hstep with
        | idle => exact absurd rfl hnew
        | reaped _ answer =>
          refine ⟨_, rest, ?_, ?_, .killed l m n k limit answer⟩
          · simp
          · rw [starts_append, starts_cons, starts_append, starts_cons, starts_append, starts_cons,
              starts_append, hl, hm, hn, hk]
            rfl

theorem allGone (h : Steps .free log .free) : AllGone log := by
  intro before command p after e
  rw [e] at h
  obtain ⟨c, -, hrest⟩ := h.split
  cases hrest with
  | cons hstep hafter =>
    cases hstep with
    | idle _ hidle => cases hidle
    | started => exact gone_of_held hafter

end Custody

/-- What is owed goes from one to the other, and no process is started. -/
structure Tended (c : Custody) (log : List (Exchange system)) (c' : Custody) : Prop where
  steps : c.Steps log c'
  quiet : starts log = 0

namespace Tended

variable {c c' c'' : Custody} {e : Exchange system} {log log' : List (Exchange system)}

theorem nil (c : Custody) : Tended c [] c :=
  ⟨.nil c, rfl⟩

theorem cons (hstep : c.Step e c') (he : e.isStart = false) (h : Tended c' log c'') :
    Tended c (e :: log) c'' := by
  refine ⟨.cons hstep h.steps, ?_⟩
  rw [starts_cons, h.quiet, he]
  rfl

theorem idle (he : e.isIdle = true) (h : Tended c log c') : Tended c (e :: log) c' :=
  .cons (.idle c he) (Exchange.isStart_of_isIdle he) h

theorem append (h : Tended c log c') (h' : Tended c' log' c'') : Tended c (log ++ log') c'' := by
  refine ⟨h.steps.append h'.steps, ?_⟩
  rw [starts_append, h.quiet, h'.quiet]

/-- What is owed after the start of a process and all that followed. -/
theorem started {p : ProcessRef} (command : List Text) (h : Tended (.held p) log c) :
    Custody.free.Steps (⟨.start command, .ok p⟩ :: log) c ∧
      starts (⟨.start command, .ok p⟩ :: log) ≤ 1 := by
  refine ⟨.cons (.started command p) h.steps, ?_⟩
  rw [starts_cons, h.quiet]
  exact Nat.le_refl 1

end Tended

namespace Tunnel

/-- What a tunnel owes. -/
def custody (t : Tunnel) : Custody :=
  match t.process with
  | none => .free
  | some p => .held p

theorem custody_of_none {t : Tunnel} (h : t.process = none) : t.custody = .free := by
  rw [custody, h]

/-! ## Waiting -/

/-- The last turn of a wait that succeeded. -/
def lastTurn (port : Int) (p : ProcessRef) (now : Double) : List (Exchange system) :=
  [⟨.clock, now⟩, ⟨.poll p, none⟩, ⟨.connect host port, true⟩]

/-- A turn after which the wait goes on. -/
def idleTurn (port : Int) (p : ProcessRef) (now : Double) : List (Exchange system) :=
  [⟨.clock, now⟩, ⟨.poll p, none⟩, ⟨.connect host port, false⟩, ⟨.sleep, ()⟩]

/-- The turns that end a wait. -/
inductive FinalTurn (port : Int) (deadline : Double) (p : ProcessRef) :
    List (Exchange system) → Readiness → Prop
  | late {now : Double} (h : now.lt deadline = false) :
    FinalTurn port deadline p [⟨.clock, now⟩] .late
  | exited {now : Double} (h : now.lt deadline = true) (code : Int) (bytes : Option (List Nat)) :
    FinalTurn port deadline p [⟨.clock, now⟩, ⟨.poll p, some code⟩, ⟨.report p, bytes⟩]
      (.exited (reportText bytes))
  | ready {now : Double} (h : now.lt deadline = true) :
    FinalTurn port deadline p (lastTurn port p now) .ready

/-- A turn ends the wait, or another follows while any is left. -/
theorem ends_waitReady_succ {port : Int} {deadline : Double} {p : ProcessRef} {limit : Nat}
    {log : List (Exchange system)} {r : Option Readiness} :
    (waitReady port deadline p (limit + 1)).Ends log r ↔
      (∃ ended, r = some ended ∧ FinalTurn port deadline p log ended) ∨
      ∃ now rest, now.lt deadline = true ∧ log = idleTurn port p now ++ rest ∧
        (waitReady port deadline p limit).Ends rest r := by
  constructor
  · intro h
    obtain ⟨now, log, rfl, hnow⟩ := Inquiry.ends_put_bind.mp h
    cases hdue : now.lt deadline with
    | false =>
      rw [hdue] at hnow
      obtain ⟨rfl, rfl⟩ := Inquiry.ends_pure.mp hnow
      exact .inl ⟨_, rfl, .late hdue⟩
    | true =>
      rw [hdue] at hnow
      obtain ⟨code, log, rfl, hcode⟩ := Inquiry.ends_put_bind.mp hnow
      cases code with
      | some code =>
        obtain ⟨bytes, log, rfl, hbytes⟩ := Inquiry.ends_put_bind.mp hcode
        obtain ⟨rfl, rfl⟩ := Inquiry.ends_pure.mp hbytes
        exact .inl ⟨_, rfl, .exited hdue code bytes⟩
      | none =>
        obtain ⟨accepted, log, rfl, haccepted⟩ := Inquiry.ends_put_bind.mp hcode
        cases accepted with
        | true =>
          rw [if_pos rfl, Inquiry.ends_tell_bind] at haccepted
          obtain ⟨rfl, rfl⟩ := Inquiry.ends_pure.mp haccepted
          exact .inl ⟨_, rfl, .ready hdue⟩
        | false =>
          obtain ⟨_, log, rfl, hlater⟩ := Inquiry.ends_put_bind.mp haccepted
          exact .inr ⟨now, log, hdue, rfl, hlater⟩
  · intro h
    rcases h with ⟨_, rfl, hfinal⟩ | ⟨now, rest, hdue, rfl, hlater⟩
    · cases hfinal with
      | @late now h =>
        refine Inquiry.ends_put_bind.mpr ⟨now, [], rfl, ?_⟩
        rw [h]
        exact Inquiry.ends_pure.mpr ⟨rfl, rfl⟩
      | @exited now h code bytes =>
        refine Inquiry.ends_put_bind.mpr ⟨now, _, rfl, ?_⟩
        rw [h]
        refine Inquiry.ends_put_bind.mpr ⟨some code, _, rfl, ?_⟩
        exact Inquiry.ends_put_bind.mpr ⟨bytes, [], rfl, Inquiry.ends_pure.mpr ⟨rfl, rfl⟩⟩
      | @ready now h =>
        refine Inquiry.ends_put_bind.mpr ⟨now, _, rfl, ?_⟩
        rw [h]
        refine Inquiry.ends_put_bind.mpr ⟨none, _, rfl, ?_⟩
        refine Inquiry.ends_put_bind.mpr ⟨true, [], rfl, ?_⟩
        exact Inquiry.ends_tell_bind.mpr (Inquiry.ends_pure.mpr ⟨rfl, rfl⟩)
    · refine Inquiry.ends_put_bind.mpr ⟨now, _, rfl, ?_⟩
      rw [hdue]
      refine Inquiry.ends_put_bind.mpr ⟨none, _, rfl, ?_⟩
      refine Inquiry.ends_put_bind.mpr ⟨false, _, rfl, ?_⟩
      exact Inquiry.ends_put_bind.mpr ⟨(), rest, rfl, hlater⟩

/-- What a wait has done when it ends. -/
def Waited (port : Int) (deadline : Double) (p : ProcessRef) (log : List (Exchange system)) :
    Option Readiness → Prop
  | some .ready => Tended (.held p) log (.held p) ∧
    ∃ before now, log = before ++ lastTurn port p now ∧ now.lt deadline = true
  | some (.exited _) => Tended (.held p) log .free
  | some .late | none => Tended (.held p) log (.held p)

/-- Turns after which the process is still held come before those of a wait. -/
theorem Waited.later {port : Int} {deadline : Double} {p : ProcessRef}
    {turns log : List (Exchange system)} {r : Option Readiness}
    (h : Waited port deadline p log r) (hturns : Tended (.held p) turns (.held p)) :
    Waited port deadline p (turns ++ log) r := by
  match r with
  | some .ready =>
    obtain ⟨hlog, before, now, rfl, hdue⟩ := h
    exact ⟨hturns.append hlog, turns ++ before, now, (List.append_assoc ..).symm, hdue⟩
  | some (.exited errors) => exact hturns.append h
  | some .late => exact hturns.append h
  | none => exact hturns.append h

theorem waited {port : Int} {deadline : Double} {p : ProcessRef} :
    ∀ {limit : Nat} {log : List (Exchange system)} {r : Option Readiness},
      (waitReady port deadline p limit).Ends log r → Waited port deadline p log r
  | 0, log, r, h => by
    obtain ⟨rfl, rfl⟩ := Inquiry.ends_pure.mp h
    exact .nil _
  | limit + 1, log, r, h => by
    rcases ends_waitReady_succ.mp h with ⟨_, rfl, hfinal⟩ | ⟨now, rest, hdue, rfl, hlater⟩
    · cases hfinal with
      | late => exact .idle rfl (.nil _)
      | exited _ code bytes => exact .idle rfl (.cons (.exited p code) rfl (.idle rfl (.nil _)))
      | @ready now hdue =>
        exact ⟨.idle rfl (.cons (.running p) rfl (.idle rfl (.nil _))), [], now, rfl, hdue⟩
    · have hturn : Tended (.held p) (idleTurn port p now) (.held p) :=
        .idle rfl (.cons (.running p) rfl (.idle rfl (.idle rfl (.nil _))))
      exact (waited hlater).later hturn

/-! ## Closing -/

theorem released {p : ProcessRef} {log : List (Exchange system)} {u : Unit}
    (h : (release p).Ends log u) : Tended (.held p) log .free := by
  obtain ⟨a, log, rfl, hasked⟩ := Inquiry.ends_put_bind.mp h
  obtain ⟨ended, log, rfl, hended⟩ := Inquiry.ends_put_bind.mp hasked
  cases ended with
  | true =>
    obtain rfl := Inquiry.ends_tell.mp hended
    exact .cons (.terminated p) rfl (.cons (.ended p _) rfl (.nil _))
  | false =>
    obtain ⟨b, log, rfl, hkill⟩ := Inquiry.ends_put_bind.mp (Inquiry.ends_tell_bind.mp hended)
    obtain ⟨gone, log, rfl, hgone⟩ := Inquiry.ends_put_bind.mp hkill
    obtain rfl := Inquiry.ends_tell.mp hgone
    exact .cons (.terminated p) rfl (.cons (.stayed p _) rfl (.cons (.killed p) rfl
      (.cons (.reaped p gone) rfl (.nil _))))

/-- Closing a tunnel without a process asks nothing and leaves it as it is. -/
theorem ends_close_of_none {t t' : Tunnel} {log : List (Exchange system)} (ht : t.process = none)
    (h : t.close.Ends log t') : log = [] ∧ t' = t := by
  unfold close at h
  rw [ht] at h
  exact Inquiry.ends_pure.mp h

/-- Closing leaves a tunnel without a process, and nothing owed to the one it had. -/
theorem closed {t t' : Tunnel} {log : List (Exchange system)} (h : t.close.Ends log t') :
    Tended t.custody log .free ∧ t'.process = none := by
  cases ht : t.process with
  | none =>
    obtain ⟨rfl, rfl⟩ := ends_close_of_none ht h
    refine ⟨?_, ht⟩
    rw [custody_of_none ht]
    exact .nil _
  | some p =>
    unfold close at h
    rw [ht] at h
    obtain ⟨first, u, rest, rfl, hfirst, hrest⟩ := Inquiry.ends_bind.mp h
    obtain ⟨rfl, rfl⟩ := Inquiry.ends_pure.mp hrest
    refine ⟨?_, rfl⟩
    rw [custody, ht, List.append_nil]
    exact released hfirst

/-! ## Starting -/

/-- How an exchange ended that opened a tunnel: in the last turn of the wait the time had not come,
the process that was started was running, and then the port accepted a connection. -/
def Arrived (s : Settings) (log : List (Exchange system)) (t : Tunnel) : Prop :=
  ∃ before command p begun middle now, log = before ++ ⟨.start command, .ok p⟩ ::
      ⟨.clock, begun⟩ :: (middle ++ lastTurn s.brokerPort p now) ∧
    now.lt (Double.add begun s.tunnelTimeout) = true ∧ t.process = some p

/-- What an attempt to start has done: at most one process was started, and either the tunnel has
it, or the attempt failed and nothing is owed. -/
structure Launched (s : Settings) (log : List (Exchange system)) (r : Except Fault Unit)
    (t : Tunnel) : Prop where
  owed : Custody.free.Steps log t.custody
  once : starts log ≤ 1
  failed : ∀ fault, r = .error fault → t.process = none
  ready : r = .ok () → Arrived s log t

/-- A start after which the process was given up. -/
theorem launched_of_free {s : Settings} {t : Tunnel} {p : ProcessRef} {fault : Fault}
    {log : List (Exchange system)} (command : List Text) (ht : t.process = none)
    (h : Tended (.held p) log .free) :
    Launched s (⟨.start command, .ok p⟩ :: log) (.error fault) t := by
  obtain ⟨howed, honce⟩ := h.started command
  refine ⟨?_, honce, fun _ _ => ht, nofun⟩
  rw [custody_of_none ht]
  exact howed

theorem settled {limit : Nat} {s : Settings} {t t' : Tunnel} {p : ProcessRef}
    {log : List (Exchange system)} {r : Except Fault Unit} (command : List Text)
    (h : (settle limit s t p).Ends log (r, t')) :
    Launched s (⟨.start command, .ok p⟩ :: log) r t' := by
  obtain ⟨begun, log, rfl, hbegun⟩ := Inquiry.ends_put_bind.mp h
  obtain ⟨wait, ready, rest, rfl, hwait, hrest⟩ := Inquiry.ends_bind.mp hbegun
  have hwaited := waited hwait
  match ready with
  | some .ready =>
    obtain ⟨rfl, hr⟩ := Inquiry.ends_pure.mp hrest
    obtain ⟨rfl, rfl⟩ := Prod.mk.inj hr
    obtain ⟨hheld, middle, now, rfl, hdue⟩ := hwaited
    have hlog : Tended (.held p) (⟨.clock, begun⟩ :: (middle ++ lastTurn s.brokerPort p now))
        (.held p) := .idle rfl hheld
    obtain ⟨howed, honce⟩ := hlog.started command
    rw [List.append_nil]
    exact ⟨howed, honce, nofun, fun _ => ⟨[], command, p, begun, middle, now, rfl, hdue, rfl⟩⟩
  | some (.exited errors) =>
    obtain ⟨rfl, hr⟩ := Inquiry.ends_pure.mp hrest
    obtain ⟨rfl, rfl⟩ := Prod.mk.inj hr
    rw [List.append_nil]
    exact launched_of_free command rfl (.idle rfl hwaited)
  | some .late | none =>
    obtain ⟨log, u, _, rfl, hrelease, hdone⟩ := Inquiry.ends_bind.mp hrest
    obtain ⟨rfl, hr⟩ := Inquiry.ends_pure.mp hdone
    obtain ⟨rfl, rfl⟩ := Prod.mk.inj hr
    rw [List.append_nil]
    exact launched_of_free command rfl (.idle rfl (hwaited.append (released hrelease)))

theorem launched {limit : Nat} {s : Settings} {t t' : Tunnel} {forwarder ns : Text}
    {log : List (Exchange system)} {r : Except Fault Unit} (ht : t.process = none)
    (h : (start limit s t forwarder ns).Ends log (r, t')) : Launched s log r t' := by
  have hstart := Inquiry.ends_tell_bind.mp h
  obtain ⟨answer, log, rfl, hanswer⟩ := Inquiry.ends_put_bind.mp hstart
  cases answer with
  | ok p => exact settled _ hanswer
  | error reason =>
    obtain ⟨rfl, hr⟩ := Inquiry.ends_pure.mp hanswer
    obtain ⟨rfl, rfl⟩ := Prod.mk.inj hr
    refine ⟨?_, Nat.le_refl 1, fun _ _ => ht, nofun⟩
    rw [custody_of_none ht]
    exact .cons (.notStarted _ reason) (.nil _)

/-- What was found before the start changes nothing. -/
theorem Launched.found {s : Settings} {t : Tunnel} {log : List (Exchange system)}
    {r : Except Fault Unit} (h : Launched s log r t) (forwarder : Option Text) :
    Launched s (⟨.findForwarder, forwarder⟩ :: log) r t := by
  refine ⟨.cons (.idle _ rfl) h.owed, ?_, h.failed, fun hr => ?_⟩
  · rw [starts_cons]
    exact h.once
  · obtain ⟨before, command, p, begun, middle, now, rfl, hdue, ht⟩ := h.ready hr
    exact ⟨⟨.findForwarder, forwarder⟩ :: before, command, p, begun, middle, now, rfl, hdue, ht⟩

/-! ## Finding the broker -/

/-- A service is only found in one of the namespaces, where the cluster said that it is. -/
theorem ends_findService {timeout : Double} {service ns : Text} {names : List Text}
    {log : List (Exchange cluster)}
    (h : (Cluster.findService timeout service names).Ends log (.ok (some ns))) :
    ns ∈ names ∧ ⟨.request timeout (.service ns service), .ok ()⟩ ∈ log := by
  obtain ⟨missed, later, rfl, rfl⟩ := ((Cluster.search_findService names h).finds.found ns).mp rfl
  exact ⟨List.mem_append_right _ (List.mem_cons_self ..),
    List.mem_append_right _ (List.mem_singleton.mpr rfl)⟩

theorem ends_findNs {s : Settings} {ns : Text} {log : List (Exchange cluster)}
    (h : (findNs s).Ends log (.ok ns)) : ns ∈ namespaces s ∧
      ⟨.request s.requestTimeout (.service ns s.brokerService), .ok ()⟩ ∈ log := by
  rcases Attempt.ends_bind.mp h with ⟨fault, hr, -⟩ | ⟨first, found, rest, rfl, hfirst, hrest⟩
  · cases hr
  cases found with
  | none => exact nomatch (Attempt.ends_throw.mp hrest).2
  | some found =>
    obtain ⟨rfl, hns⟩ := Attempt.ends_pure.mp hrest
    obtain rfl : ns = found := Except.ok.inj hns
    rw [List.append_nil]
    exact ends_findService hfirst

/-! ## Entering -/

/-- What an attempt to open a tunnel has done. -/
structure Entered (s : Settings) (log : List (Exchange tunnelWork)) (r : Except Fault Unit)
    (t : Tunnel) : Prop where
  launched : Launched s (Exchange.rights log) r t
  /-- A process is started only with a program that was found, for a service that was found. -/
  found : starts (Exchange.rights log) ≠ 0 → ∃ forwarder rest, ∃ ns ∈ namespaces s,
    log = ⟨.inr .findForwarder, some forwarder⟩ :: rest ∧
    ⟨.inl (.request s.requestTimeout (.service ns s.brokerService)), .ok ()⟩ ∈ rest

/-- An attempt that failed before it started a process. -/
theorem entered_of_quiet {s : Settings} {t : Tunnel} {fault : Fault}
    {log : List (Exchange tunnelWork)} (ht : t.process = none)
    (h : Tended .free (Exchange.rights log) .free) : Entered s log (.error fault) t := by
  refine ⟨⟨?_, ?_, fun _ _ => ht, nofun⟩, fun hstarts => absurd h.quiet hstarts⟩
  · rw [custody_of_none ht]
    exact h.steps
  · rw [h.quiet]
    exact Nat.zero_le 1

theorem openWithin_entered {limit : Nat} {s : Settings} {t t' : Tunnel}
    {log : List (Exchange tunnelWork)} {r : Except Fault Unit} (ht : t.process = none)
    (h : (openWithin limit s t).Ends log (r, t')) : Entered s log r t' := by
  obtain ⟨_, forwarder, log, rfl, hforwarder, hrest⟩ := Inquiry.ends_bind.mp h
  obtain ⟨asked, hasked, rfl⟩ := Inquiry.ends_inRight.mp hforwarder
  obtain rfl := Inquiry.ends_put.mp hasked
  cases forwarder with
  | none =>
    obtain ⟨rfl, hr⟩ := Inquiry.ends_pure.mp hrest
    obtain ⟨rfl, rfl⟩ := Prod.mk.inj hr
    exact entered_of_quiet ht (.idle rfl (.nil _))
  | some forwarder =>
    obtain ⟨_, found, log, rfl, hfound, hstart⟩ := Inquiry.ends_bind.mp hrest
    obtain ⟨lookups, hlookups, rfl⟩ := Inquiry.ends_inLeft.mp hfound
    cases found with
    | error fault =>
      obtain ⟨rfl, hr⟩ := Inquiry.ends_pure.mp hstart
      obtain ⟨rfl, rfl⟩ := Prod.mk.inj hr
      refine entered_of_quiet ht ?_
      rw [Exchange.rights_append, Exchange.rights_append, Exchange.rights_map_inRight,
        Exchange.rights_map_inLeft]
      exact .idle rfl (.nil _)
    | ok ns =>
      obtain ⟨work, hwork, rfl⟩ := Inquiry.ends_inRight.mp hstart
      obtain ⟨hns, hservice⟩ := ends_findNs hlookups
      have hnamed : ({ t with ns := some ns } : Tunnel).process = none := ht
      have hlaunched := launched hnamed hwork
      refine ⟨?_, fun _ => ⟨forwarder, lookups.map .inLeft ++ work.map .inRight, ns, hns, rfl, ?_⟩⟩
      · rw [Exchange.rights_append, Exchange.rights_append, Exchange.rights_map_inRight,
          Exchange.rights_map_inLeft, Exchange.rights_map_inRight]
        exact hlaunched.found (some forwarder)
      · exact List.mem_append_left _ (List.mem_map.mpr ⟨_, hservice, rfl⟩)

/-! ## Uses one after the other -/

variable {J : Interface} {α : Type}

/-- What a tunnel asked of the system. -/
def asked (log : List (Exchange (tunnelWork.or J))) : List (Exchange system) :=
  Exchange.rights (Exchange.lefts log)

theorem asked_append (log log' : List (Exchange (tunnelWork.or J))) :
    asked (log ++ log') = asked log ++ asked log' := by
  simp [asked]

theorem asked_entry (entry : List (Exchange tunnelWork)) :
    asked (entry.map .inLeft : List (Exchange (tunnelWork.or J))) = Exchange.rights entry := by
  simp [asked]

theorem asked_work (worked : List (Exchange J)) :
    asked (worked.map .inRight : List (Exchange (tunnelWork.or J))) = [] := by
  simp [asked, Exchange.rights]

theorem during_freed {limit : Nat} {s : Settings} {work : Inquiry J (Except Fault α)}
    {t t' : Tunnel} {log : List (Exchange (tunnelWork.or J))} {r : Except Fault α}
    (ht : t.process = none) (h : (during limit s work t).Ends log (r, t')) :
    t'.process = none ∧ Custody.free.Steps (asked log) .free ∧ starts (asked log) ≤ 1 := by
  obtain ⟨_, opened, rest, rfl, hopened, hrest⟩ := Inquiry.ends_bind.mp h
  obtain ⟨entry, hentry, rfl⟩ := Inquiry.ends_inLeft.mp hopened
  obtain ⟨result, t₁⟩ := opened
  have hentered := (openWithin_entered ht hentry).launched
  rw [asked_append, asked_entry]
  cases result with
  | error fault =>
    obtain ⟨rfl, hr⟩ := Inquiry.ends_pure.mp hrest
    obtain ⟨rfl, rfl⟩ := Prod.mk.inj hr
    have hprocess := hentered.failed fault rfl
    have howed := hentered.owed
    rw [custody_of_none hprocess] at howed
    refine ⟨hprocess, howed.append (.nil _), ?_⟩
    rw [starts_append]
    exact hentered.once
  | ok u =>
    obtain ⟨_, result, _, rfl, hworked, hclose⟩ := Inquiry.ends_bind.mp hrest
    obtain ⟨worked, -, rfl⟩ := Inquiry.ends_inRight.mp hworked
    obtain ⟨_, t₂, _, rfl, hleft, hdone⟩ := Inquiry.ends_bind.mp hclose
    obtain ⟨leaving, hleaving, rfl⟩ := Inquiry.ends_inLeft.mp hleft
    obtain ⟨rfl, hr⟩ := Inquiry.ends_pure.mp hdone
    obtain ⟨rfl, rfl⟩ := Prod.mk.inj hr
    obtain ⟨closing, hclosing, rfl⟩ := Inquiry.ends_inRight.mp hleaving
    obtain ⟨htended, hprocess⟩ := closed hclosing
    rw [List.append_nil, asked_append, asked_work, asked_entry, Exchange.rights_map_inRight,
      List.nil_append]
    refine ⟨hprocess, hentered.owed.append htended.steps, ?_⟩
    rw [starts_append, htended.quiet]
    exact hentered.once

/-- A use of a tunnel, with a limit on the turns of its wait. -/
structure Use (J : Interface) (α : Type) where
  limit : Nat
  settings : Settings
  work : Inquiry J (Except Fault α)

/-- Uses a tunnel several times, and gives the result of each use with the tunnel that it left. -/
def duringEach : List (Use J α) → Tunnel →
    Inquiry (tunnelWork.or J) (List (Except Fault α × Tunnel))
  | [], _ => return []
  | u :: rest, t => do
    let used ← during u.limit u.settings u.work t
    let later ← duringEach rest used.2
    return used :: later

theorem duringEach_freed : ∀ {uses : List (Use J α)} {t : Tunnel}
    {log : List (Exchange (tunnelWork.or J))} {results : List (Except Fault α × Tunnel)},
    t.process = none → (duringEach uses t).Ends log results →
    results.length = uses.length ∧ (∀ used ∈ results, used.2.process = none) ∧
      Custody.free.Steps (asked log) .free
  | [], t, log, results, _, h => by
    obtain ⟨rfl, rfl⟩ := Inquiry.ends_pure.mp h
    exact ⟨rfl, nofun, .nil _⟩
  | u :: rest, t, log, results, ht, h => by
    obtain ⟨first, used, _, rfl, hfirst, hrest⟩ := Inquiry.ends_bind.mp h
    obtain ⟨later, more, _, rfl, hlater, hdone⟩ := Inquiry.ends_bind.mp hrest
    obtain ⟨rfl, rfl⟩ := Inquiry.ends_pure.mp hdone
    obtain ⟨hprocess, howed, -⟩ := during_freed ht hfirst
    obtain ⟨hlength, hprocesses, hlaterOwed⟩ := duringEach_freed hprocess hlater
    refine ⟨congrArg (· + 1) hlength, List.forall_mem_cons.mpr ⟨hprocess, hprocesses⟩, ?_⟩
    rw [List.append_nil, asked_append]
    exact howed.append hlaterOwed

/-- However the system and the cluster answer, and whatever becomes of the work: after each use a
tunnel holds no process, and every process that was started is gone. Opening succeeds only when the
port accepted a connection in time from a process that was running, starts at most one process, and
none without a program and a service that were found; a tunnel without a process is closed without
a question. -/
theorem duringEach_ended :
    (∀ (uses : List (Use J α)) (t : Tunnel) (log : List (Exchange (tunnelWork.or J)))
      (results : List (Except Fault α × Tunnel)), t.process = none →
      (duringEach uses t).Ends log results →
      results.length = uses.length ∧ (∀ used ∈ results, used.2.process = none) ∧
        AllGone (asked log)) ∧
    (∀ (limit : Nat) (s : Settings) (t t' : Tunnel) (log : List (Exchange tunnelWork))
      (r : Except Fault Unit), t.process = none → (openWithin limit s t).Ends log (r, t') →
      Entered s log r t') ∧
    (∀ (t t' : Tunnel) (log : List (Exchange system)), t.process = none → t.close.Ends log t' →
      log = [] ∧ t' = t) := by
  refine ⟨fun uses t log results ht h => ?_, fun limit s t t' log r ht h => ?_,
    fun t t' log ht h => ?_⟩
  · obtain ⟨hlength, hprocesses, howed⟩ := duringEach_freed ht h
    exact ⟨hlength, hprocesses, Custody.allGone howed⟩
  · exact openWithin_entered ht h
  · exact ends_close_of_none ht h

/-- The seconds that were slept, and the number of processes that were started. -/
structure SampleSystem where
  slept : Nat := 0
  started : Nat := 0

/-- A cluster that has every service. -/
def sampleCluster : (q : cluster.Question) → cluster.Answer q
  | .request _ (.service ..) => .ok ()
  | .request _ (.pods _) => .ok []
  | .request _ (.pod ..) => .ok {}
  | .request _ (.controller ..) => .ok {}
  | .loadInCluster => .ok ()
  | .loadFile .. => .ok ()
  | .contexts _ => .ok {}

/-- A system on which the first process neither listens nor ends when it is asked to. -/
def sampleAnswer : (q : (tunnelWork.or cluster).Question) →
    StateM SampleSystem ((tunnelWork.or cluster).Answer q)
  | .inl (.inl q) => pure (sampleCluster q)
  | .inl (.inr .findForwarder) => pure (some "kubectl")
  | .inl (.inr (.start _)) => fun s =>
    (.ok ⟨s.started + 1⟩, { s with started := s.started + 1 })
  | .inl (.inr (.poll _)) => pure none
  | .inl (.inr (.report _)) => pure none
  | .inl (.inr (.connect ..)) => fun s => (decide (1 < s.started), s)
  | .inl (.inr .clock) => fun s => (.finite false (s.slept * Double.unitsPerOne), s)
  | .inl (.inr .sleep) => fun s => ((), { s with slept := s.slept + 1 })
  | .inl (.inr (.terminate _)) => pure ()
  | .inl (.inr (.kill _)) => pure ()
  | .inl (.inr (.wait p _)) => pure (decide (1 < p.number))
  | .inr q => pure (sampleCluster q)

/-- Two uses, each of which waits for a second at most. The work of the second fails. -/
def sampleUses : List (Use cluster Unit) :=
  [⟨5, { tunnelTimeout := .ofNat 1 }, .done (.ok ())⟩,
    ⟨5, { tunnelTimeout := .ofNat 1 }, .done (.error (.noTraffic "web"))⟩]

/-- The exchanges of the uses, and their results. -/
def sampleRun : List (Exchange (tunnelWork.or cluster)) × List (Except Fault Unit × Tunnel) :=
  (duringEach sampleUses {}).answered sampleAnswer {}

theorem duringEach_ended_sample :
    (sampleRun.2.map fun used => match used.1 with
      | .ok () => none
      | .error fault => some fault)
        = [some (.tunnel (.notReady (.ofNat 1))), some (.noTraffic "web")] ∧
    ((asked sampleRun.1).filter fun e => !e.isIdle && !e.isStart).map (·.question)
      = [.poll ⟨1⟩, .terminate ⟨1⟩, .wait ⟨1⟩ (some 5), .kill ⟨1⟩, .wait ⟨1⟩ none, .poll ⟨2⟩,
        .terminate ⟨2⟩, .wait ⟨2⟩ (some 5)] ∧
    (∀ used ∈ sampleRun.2, used.2.process = none) ∧ AllGone (asked sampleRun.1) := by
  refine ⟨by decide +kernel, by decide +kernel, ?_⟩
  exact ((duringEach_ended (J := cluster) (α := Unit)).1 sampleUses {} _ _ rfl
    (Inquiry.ends_answered sampleAnswer _ {})).2

end Tunnel

end LeastPrivilege
