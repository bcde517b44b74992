import SquawkVM.Machine
import Mathlib.Data.List.Basic
import Mathlib.Data.List.Pairwise
import Mathlib.Logic.Function.Basic

/-! The outer tier of the channel dispatcher on the EB40A board (`eb40a-io.c`): `ioExecute`
and the linked list `switchRequests` of requests waiting for a switch, which `SW_READ`
extends and `GET_EVENT` consumes. -/

namespace SquawkVM

/-- The result and channel codes of `ChannelConstants`, generated on the Java side and missing
from `src/`. -/
structure ChannelConstants where
  RESULT_OK : Int
  RESULT_BADPARAMETER : Int
  RESULT_EXCEPTION : Int
  CHANNEL_LED : Int
  CHANNEL_SW : Int

/-- A node of `switchRequests`: `struct switchRequest` without its `next` link, for which the
list order stands. -/
structure SwitchRequest where
  eventNumber : Int
  mask : Int
  deriving DecidableEq, Repr

section
variable (wrap : Int → Int)

/-- The walk `while (current->next != NULL)` of `storeSwitchRequest`, then the link of the
new request after the tail, numbered one more than the tail. `wrap` is how the `int` holds
the sum. -/
def linkAtTail (switchMask : Int) (current : SwitchRequest) :
    List SwitchRequest → Int × List SwitchRequest
  | [] => (wrap (current.eventNumber + 1),
      [current, ⟨wrap (current.eventNumber + 1), switchMask⟩])
  | next :: rest => ((linkAtTail switchMask next rest).1, current :: (linkAtTail switchMask next rest).2)

/-- `storeSwitchRequest(switchMask)`, given whether `malloc` succeeds. -/
def storeSwitchRequest (K : ChannelConstants) (mallocOk : Bool) (switchMask : Int)
    (reqs : List SwitchRequest) : Int × List SwitchRequest :=
  if ¬mallocOk then (K.RESULT_EXCEPTION, reqs)
  else match reqs with
    | [] => (1, [⟨1, switchMask⟩])
    | head :: rest => linkAtTail wrap switchMask head rest

end

/-- The loop of `getEventPrim`: `previous` holds the requests passed, nearest first, and
`current` the rest. A pressed request is unlinked when `removeEventFlag` is set; whether
`previous` is `NULL` (the head goes) or not, the list becomes `previous` then `current->next`. -/
def getEventLoop (removeEventFlag : Bool) (pressed : Int → Bool) :
    List SwitchRequest → List SwitchRequest → Int × List SwitchRequest
  | previous, [] => (0, previous.reverse)
  | previous, current :: rest =>
    if pressed current.mask then
      (current.eventNumber,
        if removeEventFlag then previous.reverse ++ rest else previous.reverse ++ current :: rest)
    else getEventLoop removeEventFlag pressed (current :: previous) rest

/-- `getEventPrim(removeEventFlag)` while `sw_is_pressed` answers `pressed`. -/
def getEventPrim (removeEventFlag : Bool) (pressed : Int → Bool) (reqs : List SwitchRequest) :
    Int × List SwitchRequest :=
  if reqs = [] then (0, reqs) else getEventLoop removeEventFlag pressed [] reqs

/-- The cases of the `switch (op)` of `ioExecute`. The operation codes are `ChannelConstants`
missing from `src/`; as the case labels are distinct, an operation is the case it selects. -/
inductive IoOp where
  | createContext | getChannel | ledOff | ledOn | swRead | peek | poke
  | getResult | getResult2 | getError | getEvent | waitForEvent | deleteContext | other
  deriving DecidableEq, Repr

/-- The fields of `java_lang_ServiceOperation` that `ioExecute` reads. -/
structure IoRequest where
  op : IoOp
  i1 : Int
  i2 : Int
  deriving DecidableEq, Repr

/-- What the board and the C library answer during one call: `sw_is_pressed`, whether
`malloc` succeeds, the clock when `WAITFOREVENT` starts, and each poll of its loop as the
switches seen by `checkForEvents` and the clock read after it. -/
structure IoEnv where
  pressed : Int → Bool
  mallocOk : Bool
  now : Int
  polls : List ((Int → Bool) × Int)

/-- The globals `switchRequests` and `retValue`, and the memory `PEEK` and `POKE` reach. -/
structure IoState where
  switchRequests : List SwitchRequest
  retValue : Int
  memory : Int → Int

/-- The globals as the C runtime zeroes them. -/
def IoState.init (memory : Int → Int) : IoState := ⟨[], 0, memory⟩

/-- The deadline of `GLOBAL_WAITFOREVENT`: `i1` and `i2` joined into a 64-bit count of
milliseconds (the `|` adds the low half, whose bits the shifted high half leaves clear),
added to the clock; a sum that wraps to zero or below becomes the largest `long long`. -/
def waitForEventTarget (now i1 i2 : Int) : Int :=
  if toInt64 (now + toInt64 (i1 * 2 ^ 32 + i2 % 2 ^ 32)) ≤ 0 then 0x7FFFFFFFFFFFFFFF
  else toInt64 (now + toInt64 (i1 * 2 ^ 32 + i2 % 2 ^ 32))

/-- The polling loop of `GLOBAL_WAITFOREVENT`; `false` if it is still polling when the
observed polls run out. -/
def waitForEventLoop (reqs : List SwitchRequest) (target : Int) :
    List ((Int → Bool) × Int) → Bool
  | [] => false
  | (pressed, now) :: polls =>
    (getEventPrim false pressed reqs).1 ≠ 0 || decide (now > target) ||
      waitForEventLoop reqs target polls

/-- `ioExecute()`: the result it stores in `java_lang_ServiceOperation_result` and the new
state; `none` if a `WAITFOREVENT` does not return within the observed polls. The LED cases act
on the board only. -/
def ioExecute (K : ChannelConstants) (wrap : Int → Int) (env : IoEnv) (req : IoRequest)
    (s : IoState) : Option (Int × IoState) :=
  match req.op with
  | .createContext => some (1, s)
  | .getChannel =>
    some (if req.i1 = K.CHANNEL_LED then 1 else if req.i1 ≠ K.CHANNEL_SW then 2
      else K.RESULT_BADPARAMETER, s)
  | .ledOff | .ledOn => some (K.RESULT_OK, s)
  | .swRead =>
    if env.pressed req.i1 then some (0, s)
    else
      let r := storeSwitchRequest wrap K env.mallocOk req.i1 s.switchRequests
      some (r.1, { s with switchRequests := r.2 })
  | .peek => some (K.RESULT_OK, { s with retValue := s.memory req.i1 })
  | .poke => some (K.RESULT_OK, { s with memory := Function.update s.memory req.i1 req.i2 })
  | .getResult | .getResult2 | .getError => some (s.retValue, { s with retValue := 0 })
  | .getEvent =>
    let r := getEventPrim true env.pressed s.switchRequests
    some (r.1, { s with switchRequests := r.2 })
  | .waitForEvent =>
    if waitForEventLoop s.switchRequests (waitForEventTarget env.now req.i1 req.i2) env.polls
    then some (0, s) else none
  | .deleteContext => some (0, s)
  | .other => some (K.RESULT_BADPARAMETER, s)

/-- A sequence of calls of `ioExecute`, with their results; a `WAITFOREVENT` that does not
return ends it. -/
def runIo (K : ChannelConstants) (wrap : Int → Int) :
    IoState → List (IoEnv × IoRequest) → List Int × IoState
  | s, [] => ([], s)
  | s, (env, req) :: calls => match ioExecute K wrap env req s with
    | none => ([], s)
    | some (res, s') => (res :: (runIo K wrap s' calls).1, (runIo K wrap s' calls).2)

/-! ### Spec lemmas of the queue operations -/

/-- The number `storeSwitchRequest` gives a new request when `malloc` succeeds: one on an
empty list, else the tail's number plus one. -/
def nextEventNumber (wrap : Int → Int) (reqs : List SwitchRequest) : Int :=
  match reqs.getLast? with
  | none => 1
  | some tail => wrap (tail.eventNumber + 1)

theorem linkAtTail_eq (wrap : Int → Int) (switchMask : Int) (current : SwitchRequest)
    (rest : List SwitchRequest) :
    linkAtTail wrap switchMask current rest =
      (nextEventNumber wrap (current :: rest),
        current :: rest ++ [⟨nextEventNumber wrap (current :: rest), switchMask⟩]) := by
  induction rest generalizing current with
  | nil => rfl
  | cons next rest ih =>
    simp only [linkAtTail, ih, nextEventNumber, List.getLast?_cons_cons, List.cons_append]

theorem storeSwitchRequest_of_mallocOk (wrap : Int → Int) (K : ChannelConstants)
    (switchMask : Int) (reqs : List SwitchRequest) :
    storeSwitchRequest wrap K true switchMask reqs =
      (nextEventNumber wrap reqs, reqs ++ [⟨nextEventNumber wrap reqs, switchMask⟩]) := by
  cases reqs with
  | nil => rfl
  | cons head rest => exact linkAtTail_eq wrap switchMask head rest

section
variable (removeEventFlag : Bool) (pressed : Int → Bool)

theorem getEventLoop_of_none_pressed (previous current : List SwitchRequest)
    (h : ∀ r ∈ current, pressed r.mask = false) :
    getEventLoop removeEventFlag pressed previous current = (0, previous.reverse ++ current) := by
  induction current generalizing previous with
  | nil => simp [getEventLoop]
  | cons r rest ih =>
    simp only [List.mem_cons, forall_eq_or_imp] at h
    simp [getEventLoop, h.1, ih _ h.2]

theorem getEventLoop_of_first_pressed (previous l₁ : List SwitchRequest) (r : SwitchRequest)
    (l₂ : List SwitchRequest)
    (h₁ : ∀ x ∈ l₁, pressed x.mask = false) (hr : pressed r.mask = true) :
    getEventLoop removeEventFlag pressed previous (l₁ ++ r :: l₂) =
      (r.eventNumber,
        previous.reverse ++ l₁ ++ if removeEventFlag then l₂ else r :: l₂) := by
  induction l₁ generalizing previous with
  | nil => cases removeEventFlag <;> simp [getEventLoop, hr]
  | cons x l₁ ih =>
    simp only [List.mem_cons, forall_eq_or_imp] at h₁
    simp [getEventLoop, h₁.1, ih _ h₁.2]

theorem getEventPrim_of_none_pressed (reqs : List SwitchRequest)
    (h : ∀ r ∈ reqs, pressed r.mask = false) :
    getEventPrim removeEventFlag pressed reqs = (0, reqs) := by
  unfold getEventPrim
  split
  · rfl
  · simpa using getEventLoop_of_none_pressed removeEventFlag pressed [] reqs h

theorem getEventPrim_of_first_pressed (l₁ : List SwitchRequest) (r : SwitchRequest)
    (l₂ : List SwitchRequest)
    (h₁ : ∀ x ∈ l₁, pressed x.mask = false) (hr : pressed r.mask = true) :
    getEventPrim removeEventFlag pressed (l₁ ++ r :: l₂) =
      (r.eventNumber, l₁ ++ if removeEventFlag then l₂ else r :: l₂) := by
  simpa [getEventPrim] using getEventLoop_of_first_pressed removeEventFlag pressed [] l₁ r l₂ h₁ hr

/-- Either no request is pressed, or there is a first pressed one. -/
theorem first_pressed_cases (reqs : List SwitchRequest) :
    (∀ r ∈ reqs, pressed r.mask = false) ∨
      ∃ l₁ r l₂, reqs = l₁ ++ r :: l₂ ∧ (∀ x ∈ l₁, pressed x.mask = false) ∧
        pressed r.mask = true := by
  induction reqs with
  | nil => simp
  | cons x rest ih =>
    cases hx : pressed x.mask
    · rcases ih with h | ⟨l₁, r, l₂, rfl, h₁, hr⟩
      · exact .inl (List.forall_mem_cons.2 ⟨hx, h⟩)
      · exact .inr ⟨x :: l₁, r, l₂, rfl, List.forall_mem_cons.2 ⟨hx, h₁⟩, hr⟩
    · exact .inr ⟨[], x, rest, rfl, by simp, hx⟩

end

/-- What one call can do to `switchRequests`: `SW_READ` with its switch up runs
`storeSwitchRequest`, `GET_EVENT` runs `getEvent`, and every other call leaves it. -/
theorem ioExecute_switchRequests_cases {K : ChannelConstants} {wrap : Int → Int} {env : IoEnv}
    {req : IoRequest} {s s' : IoState} {res : Int} (h : ioExecute K wrap env req s = some (res, s')) :
    (req.op = .swRead ∧ env.pressed req.i1 = false ∧
      storeSwitchRequest wrap K env.mallocOk req.i1 s.switchRequests = (res, s'.switchRequests)) ∨
    (req.op = .getEvent ∧ getEventPrim true env.pressed s.switchRequests = (res, s'.switchRequests)) ∨
    (req.op ≠ .getEvent ∧ (req.op = .swRead → env.pressed req.i1 = true) ∧
      s'.switchRequests = s.switchRequests) := by
  unfold ioExecute at h
  cases hop : req.op <;> simp only [hop] at h
  case swRead =>
    cases hp : env.pressed req.i1 <;> simp only [hp, if_true, Bool.false_eq_true, if_false,
      Option.some.injEq, Prod.mk.injEq] at h
    · exact .inl ⟨rfl, rfl, by rw [← h.1, ← h.2]⟩
    · exact .inr (.inr ⟨by simp, fun _ => rfl, by rw [← h.2]⟩)
  case getEvent =>
    simp only [Option.some.injEq, Prod.mk.injEq] at h
    exact .inr (.inl ⟨rfl, by rw [← h.1, ← h.2]⟩)
  case waitForEvent =>
    split at h <;> simp only [Option.some.injEq, Prod.mk.injEq, reduceCtorEq] at h
    exact .inr (.inr ⟨by simp, by simp, by rw [← h.2]⟩)
  all_goals
    simp only [Option.some.injEq, Prod.mk.injEq] at h
    exact .inr (.inr ⟨by simp, by simp, by rw [← h.2]⟩)

/-- `getEventPrim` returns the number of the first pressed request from the head, or zero;
`checkForEvents` leaves the list and `getEvent` unlinks exactly that request. `SW_READ` on a
pressed switch returns zero; otherwise it queues one request at the tail under the number it
returns, or returns `RESULT_EXCEPTION` when `malloc` fails. -/
theorem getEventPrim_first_pressed_and_swRead (K : ChannelConstants) (wrap : Int → Int) :
    (∀ flag pressed reqs, (∀ r ∈ reqs, pressed r.mask = false) →
      getEventPrim flag pressed reqs = (0, reqs)) ∧
    (∀ flag pressed l₁ r l₂, (∀ x ∈ l₁, pressed x.mask = false) → pressed r.mask = true →
      getEventPrim flag pressed (l₁ ++ r :: l₂) =
        (r.eventNumber, l₁ ++ if flag then l₂ else r :: l₂)) ∧
    (∀ env i1 i2 s, env.pressed i1 = true →
      ioExecute K wrap env ⟨.swRead, i1, i2⟩ s = some (0, s)) ∧
    (∀ env i1 i2 s, env.pressed i1 = false → env.mallocOk = true →
      ioExecute K wrap env ⟨.swRead, i1, i2⟩ s =
        some (nextEventNumber wrap s.switchRequests, { s with switchRequests :=
          s.switchRequests ++ [⟨nextEventNumber wrap s.switchRequests, i1⟩] })) ∧
    (∀ env i1 i2 s, env.pressed i1 = false → env.mallocOk = false →
      ioExecute K wrap env ⟨.swRead, i1, i2⟩ s = some (K.RESULT_EXCEPTION, s)) := by
  refine ⟨getEventPrim_of_none_pressed, getEventPrim_of_first_pressed,
    fun env i1 i2 s hp => by simp [ioExecute, hp], fun env i1 i2 s hp hm => ?_,
    fun env i1 i2 s hp hm => by simp [ioExecute, storeSwitchRequest, hp, hm]⟩
  simp [ioExecute, hp, hm, storeSwitchRequest_of_mallocOk]

/-! ### What the queue is for -/

/-- The requests waiting for a switch as the callers of the dispatcher see them. A `SW_READ`
that finds its switch up and gets its node queues a request under the token it returns, which
must be nonzero and differ from every pending token; a `GET_EVENT` that returns a nonzero
token delivers the pending request holding it, which leaves; nothing else changes the queue.
`none` is a step no correct queue takes. -/
def pendingStep (env : IoEnv) (req : IoRequest) (res : Int) (pending : List SwitchRequest) :
    Option (List SwitchRequest) :=
  match req.op with
  | .swRead =>
    if env.pressed req.i1 ∨ ¬env.mallocOk then some pending
    else if res ≠ 0 ∧ ∀ r ∈ pending, r.eventNumber ≠ res then some (pending ++ [⟨res, req.i1⟩])
    else none
  | .getEvent =>
    if res = 0 then some pending
    else if pending.any (·.eventNumber == res) then some (pending.eraseP (·.eventNumber == res))
    else none
  | _ => some pending

/-- `pendingStep` along a sequence of calls and their results. -/
def pendingRun : List SwitchRequest → List ((IoEnv × IoRequest) × Int) → Option (List SwitchRequest)
  | pending, [] => some pending
  | pending, ((env, req), res) :: rest => (pendingStep env req res pending).bind (pendingRun · rest)

/-- The invariant of `switchRequests` while event numbers do not wrap: every number is at
least one, and numbers increase from head to tail. -/
structure NumberedFifo (reqs : List SwitchRequest) : Prop where
  pos : ∀ r ∈ reqs, 1 ≤ r.eventNumber
  increasing : reqs.Pairwise (fun a b => a.eventNumber < b.eventNumber)

namespace NumberedFifo

theorem nil : NumberedFifo [] := ⟨by simp, .nil⟩

theorem sublist {reqs reqs' : List SwitchRequest} (h : NumberedFifo reqs)
    (hs : reqs'.Sublist reqs) : NumberedFifo reqs' :=
  ⟨fun r hr => h.pos r (hs.subset hr), h.increasing.sublist hs⟩

/-- Without wrap the next number is positive and above every pending one. -/
theorem nextEventNumber_gt {reqs : List SwitchRequest} (h : NumberedFifo reqs) :
    1 ≤ nextEventNumber id reqs ∧ ∀ r ∈ reqs, r.eventNumber < nextEventNumber id reqs := by
  rcases List.eq_nil_or_concat reqs with rfl | ⟨l, t, rfl⟩
  · simp [nextEventNumber]
  · rw [List.concat_eq_append] at h ⊢
    have ht : 1 ≤ t.eventNumber := h.pos t (by simp)
    have hl : ∀ a ∈ l, a.eventNumber < t.eventNumber := fun a ha =>
      (List.pairwise_append.1 h.increasing).2.2 a ha t (by simp)
    simp only [nextEventNumber, List.getLast?_concat, id, List.mem_append, List.mem_singleton]
    refine ⟨by omega, fun r hr => ?_⟩
    rcases hr with hr | rfl
    · have := hl r hr; omega
    · omega

theorem append {reqs : List SwitchRequest} (h : NumberedFifo reqs) (switchMask : Int) :
    NumberedFifo (reqs ++ [⟨nextEventNumber id reqs, switchMask⟩]) := by
  obtain ⟨hpos, hlt⟩ := h.nextEventNumber_gt
  refine ⟨fun r hr => ?_, List.pairwise_append.2 ⟨h.increasing, by simp, fun a ha b hb => ?_⟩⟩
  · rcases List.mem_append.1 hr with hr | hr
    · exact h.pos r hr
    · simpa [List.mem_singleton.1 hr] using hpos
  · simpa [List.mem_singleton.1 hb] using hlt a ha

/-- Numbers being distinct, removing the first request with a given request's number removes
that request. -/
theorem eraseP_eventNumber {l₁ l₂ : List SwitchRequest} {r : SwitchRequest}
    (h : NumberedFifo (l₁ ++ r :: l₂)) :
    (l₁ ++ r :: l₂).eraseP (·.eventNumber == r.eventNumber) = l₁ ++ l₂ := by
  have hl : ∀ a ∈ l₁, a.eventNumber < r.eventNumber := fun a ha =>
    (List.pairwise_append.1 h.increasing).2.2 a ha r (by simp)
  rw [List.eraseP_append_right _ fun b hb => by simpa using (hl b hb).ne]
  simp

end NumberedFifo

theorem pendingStep_of_unchanged {env : IoEnv} {req : IoRequest} (res : Int)
    (pending : List SwitchRequest) (hne : req.op ≠ .getEvent)
    (hsw : req.op = .swRead → env.pressed req.i1 = true) :
    pendingStep env req res pending = some pending := by
  unfold pendingStep
  cases hop : req.op <;> simp_all

/-- One call of `ioExecute` without wrap is a step of the pending queue, and keeps the
numbering invariant. -/
theorem ioExecute_refines_pending {K : ChannelConstants} {env : IoEnv} {req : IoRequest}
    {s s' : IoState} {res : Int} (hi : NumberedFifo s.switchRequests)
    (h : ioExecute K id env req s = some (res, s')) :
    pendingStep env req res s.switchRequests = some s'.switchRequests ∧
      NumberedFifo s'.switchRequests := by
  rcases ioExecute_switchRequests_cases h with ⟨hop, hp, hst⟩ | ⟨hop, hev⟩ | ⟨hne, hsw, hsame⟩
  case inl =>
    cases hm : env.mallocOk
    case false =>
      simp only [storeSwitchRequest, hm, Bool.false_eq_true, not_false_eq_true, if_true,
        Prod.mk.injEq] at hst
      rw [← hst.2]
      exact ⟨by simp [pendingStep, hop, hm], hi⟩
    case true =>
      rw [hm, storeSwitchRequest_of_mallocOk, Prod.mk.injEq] at hst
      obtain ⟨rfl, hsr⟩ := hst
      obtain ⟨hpos, hlt⟩ := hi.nextEventNumber_gt
      rw [← hsr]
      refine ⟨?_, hi.append _⟩
      have hfresh : ∀ r ∈ s.switchRequests, r.eventNumber ≠ nextEventNumber id s.switchRequests :=
        fun r hr => (hlt r hr).ne
      simpa [pendingStep, hop, hp, hm, show nextEventNumber id s.switchRequests ≠ 0 by omega]
        using hfresh
  case inr.inl =>
    rcases first_pressed_cases env.pressed s.switchRequests with hn | ⟨l₁, r, l₂, hsplit, h₁, hr⟩
    · rw [getEventPrim_of_none_pressed _ _ _ hn, Prod.mk.injEq] at hev
      obtain ⟨rfl, hsr⟩ := hev
      rw [← hsr]
      exact ⟨by simp [pendingStep, hop], hi⟩
    · rw [hsplit, getEventPrim_of_first_pressed _ _ _ _ _ h₁ hr, Prod.mk.injEq] at hev
      obtain ⟨rfl, hsr⟩ := hev
      rw [hsplit] at hi ⊢
      have hr1 : 1 ≤ r.eventNumber := hi.pos r (by simp)
      rw [← hsr, if_pos rfl]
      refine ⟨?_, hi.sublist (by simp)⟩
      simp [pendingStep, hop, hi.eraseP_eventNumber, show r.eventNumber ≠ 0 by omega]
  case inr.inr =>
    rw [hsame]
    exact ⟨pendingStep_of_unchanged res _ hne hsw, hi⟩

/-- Every run of `ioExecute` without wrap, from a numbered queue, is a run of the pending
queue and keeps the numbering invariant. -/
theorem runIo_refines_pending (K : ChannelConstants) (calls : List (IoEnv × IoRequest)) :
    ∀ s : IoState, NumberedFifo s.switchRequests →
      pendingRun s.switchRequests (calls.zip (runIo K id s calls).1) =
          some (runIo K id s calls).2.switchRequests ∧
        NumberedFifo (runIo K id s calls).2.switchRequests := by
  induction calls with
  | nil => exact fun s hi => ⟨rfl, hi⟩
  | cons call calls ih =>
    intro s hi
    obtain ⟨env, req⟩ := call
    cases he : ioExecute K id env req s with
    | none => simp [runIo, he, pendingRun, hi]
    | some r =>
      obtain ⟨res, s'⟩ := r
      obtain ⟨hstep, hi'⟩ := ioExecute_refines_pending hi he
      simp only [runIo, he, List.zip_cons_cons, pendingRun, hstep, Option.some_bind]
      exact ih s' hi'

/-- From the zeroed globals, every run of the dispatcher with unbounded event numbers keeps
`switchRequests` equal to the requests queued by `SW_READ` and not yet delivered by
`GET_EVENT`, in issue order, with tokens that are nonzero and distinct when handed out;
the numbers stay at least one and strictly increasing from head to tail. -/
theorem switchRequests_pending_fifo (K : ChannelConstants) (memory : Int → Int)
    (calls : List (IoEnv × IoRequest)) :
    pendingRun [] (calls.zip (runIo K id (IoState.init memory) calls).1) =
        some (runIo K id (IoState.init memory) calls).2.switchRequests ∧
      NumberedFifo (runIo K id (IoState.init memory) calls).2.switchRequests :=
  runIo_refines_pending K calls (IoState.init memory) NumberedFifo.nil

/-! ### Wrap of the event numbers -/

/-- A call made while every switch is up. -/
def allUp : IoEnv := ⟨fun _ => false, true, 0, []⟩

/-- A call made while only the switch of mask `x` is down. -/
def pressedOnly (x : Int) : IoEnv := ⟨fun m => decide (m = x), true, 0, []⟩

/-- One round of an application that keeps a request outstanding on switches `x` and `y` and
serves them in turn: `x` goes down and `GET_EVENT` delivers its request, `SW_READ` queues a
new one for `x`, then the same for `y`. -/
def serveRound (x y : Int) : List (IoEnv × IoRequest) :=
  [(pressedOnly x, ⟨.getEvent, 0, 0⟩), (allUp, ⟨.swRead, x, 0⟩),
    (pressedOnly y, ⟨.getEvent, 0, 0⟩), (allUp, ⟨.swRead, y, 0⟩)]

/-- Two `SW_READ`s for `x` and `y`, then `rounds` rounds of `serveRound x y`. -/
def alternatingRequests (x y : Int) (rounds : Nat) : List (IoEnv × IoRequest) :=
  (allUp, ⟨.swRead, x, 0⟩) :: (allUp, ⟨.swRead, y, 0⟩) ::
    (List.replicate rounds (serveRound x y)).flatten

/-- A round moves the pair of requests one number per request up, whatever the arithmetic. -/
theorem runIo_serveRound (K : ChannelConstants) (wrap : Int → Int) (x y a b retValue : Int)
    (memory : Int → Int) (rest : List (IoEnv × IoRequest)) :
    runIo K wrap ⟨[⟨a, x⟩, ⟨b, y⟩], retValue, memory⟩ (serveRound x y ++ rest) =
      (a :: wrap (b + 1) :: b :: wrap (wrap (b + 1) + 1) ::
          (runIo K wrap ⟨[⟨wrap (b + 1), x⟩, ⟨wrap (wrap (b + 1) + 1), y⟩], retValue, memory⟩
            rest).1,
        (runIo K wrap ⟨[⟨wrap (b + 1), x⟩, ⟨wrap (wrap (b + 1) + 1), y⟩], retValue, memory⟩
          rest).2) := by
  simp [serveRound, runIo, ioExecute, getEventPrim, getEventLoop, pressedOnly, allUp,
    storeSwitchRequest, linkAtTail]

/-- Below `INT_MAX`, `k` rounds add `2 * k` to both numbers. -/
theorem runIo_serveRounds (K : ChannelConstants) (x y retValue : Int)
    (memory : Int → Int) (rest : List (IoEnv × IoRequest)) (k : Nat) :
    ∀ n : Int, 0 ≤ n → n + 2 * k + 1 ≤ INT_MAX →
      ∃ out, runIo K toInt32 ⟨[⟨n, x⟩, ⟨n + 1, y⟩], retValue, memory⟩
          ((List.replicate k (serveRound x y)).flatten ++ rest) =
        (out ++ (runIo K toInt32 ⟨[⟨n + 2 * k, x⟩, ⟨n + 2 * k + 1, y⟩], retValue, memory⟩
            rest).1,
          (runIo K toInt32 ⟨[⟨n + 2 * k, x⟩, ⟨n + 2 * k + 1, y⟩], retValue, memory⟩ rest).2) := by
  induction k with
  | zero => exact fun n _ _ => ⟨[], by simp⟩
  | succ k ih =>
    intro n h0 hmax
    push_cast at hmax
    have h2 : toInt32 (n + 1 + 1) = n + 2 := by rw [toInt32_of_le] <;> omega
    have h3 : toInt32 (n + 2 + 1) = n + 3 := by rw [toInt32_of_le] <;> omega
    obtain ⟨out, hout⟩ := ih (n + 2) (by omega) (by omega)
    rw [show n + 2 + 1 = n + 3 by ring,
      show n + 2 + 2 * (k : Int) = n + 2 * ((k + 1 : Nat) : Int) by push_cast; ring] at hout
    refine ⟨n :: (n + 2) :: (n + 1) :: (n + 3) :: out, ?_⟩
    rw [List.replicate_succ, List.flatten_cons, List.append_assoc, runIo_serveRound, h2, h3, hout]
    rfl

theorem alternatingRequests_succ (x y : Int) (k : Nat) :
    alternatingRequests x y (k + 1) = alternatingRequests x y k ++ serveRound x y := by
  simp [alternatingRequests, List.replicate_succ']

/-- After the two first requests and `k` rounds below `INT_MAX`, the pair is numbered
`2 * k + 1` and `2 * k + 2`. -/
theorem runIo_alternatingRequests (K : ChannelConstants) (x y : Int) (memory : Int → Int)
    (rest : List (IoEnv × IoRequest)) (k : Nat) (hk : 2 * k + 2 ≤ INT_MAX) :
    ∃ out, runIo K toInt32 (IoState.init memory) (alternatingRequests x y k ++ rest) =
      (out ++ (runIo K toInt32 ⟨[⟨1 + 2 * k, x⟩, ⟨1 + 2 * k + 1, y⟩], 0, memory⟩ rest).1,
        (runIo K toInt32 ⟨[⟨1 + 2 * k, x⟩, ⟨1 + 2 * k + 1, y⟩], 0, memory⟩ rest).2) := by
  obtain ⟨out, hout⟩ := runIo_serveRounds K x y 0 memory rest k 1 (by decide) (by omega)
  refine ⟨1 :: 2 :: out, ?_⟩
  have h2 : toInt32 2 = 2 := by decide
  rw [show (1 : Int) + 1 = 2 by norm_num] at hout
  simp [alternatingRequests, runIo, ioExecute, IoState.init, allUp, storeSwitchRequest_of_mallocOk,
    nextEventNumber, h2, hout]

/-- The event numbers are computed in an `int`: an application serving two switches in turn
drives them up by one per request, and after `2 ^ 31 - 1` of them the next `SW_READ` returns
`INT_MIN` as the token of a pending request. -/
theorem storeSwitchRequest_number_wraps (K : ChannelConstants) (memory : Int → Int) :
    ∃ out s, runIo K toInt32 (IoState.init memory) (alternatingRequests 1 2 (2 ^ 30 - 1)) =
        (out ++ [-2147483648], s) ∧ ⟨-2147483648, 2⟩ ∈ s.switchRequests := by
  obtain ⟨out, hout⟩ := runIo_alternatingRequests K 1 2 memory (serveRound 1 2 ++ [])
    (2 ^ 30 - 2) (by simp [INT_MAX])
  have hlast : (1 : Int) + 2 * ((2 ^ 30 - 2 : Nat) : Int) = 2 ^ 31 - 3 := by norm_num
  have h1 : toInt32 (2 ^ 31 - 3 + 1 + 1) = 2 ^ 31 - 1 := by decide
  have h2 : toInt32 (2 ^ 31 - 1 + 1) = -2147483648 := by decide
  rw [runIo_serveRound, hlast, h1, h2] at hout
  refine ⟨out ++ [2 ^ 31 - 3, 2 ^ 31 - 1, 2 ^ 31 - 3 + 1],
    ⟨[⟨2 ^ 31 - 1, 1⟩, ⟨-2147483648, 2⟩], 0, memory⟩, ?_, by simp⟩
  rw [show 2 ^ 30 - 1 = 2 ^ 30 - 2 + 1 by norm_num, alternatingRequests_succ,
    ← List.append_nil (serveRound 1 2), hout]
  simp [runIo]

/-! ### The deadline of `GLOBAL_WAITFOREVENT` -/

/-- The count of milliseconds `GLOBAL_WAITFOREVENT` waits: `i1` and `i2` joined into a
`long long` as `waitForEventTarget` joins them. -/
def waitForEventMillis (i1 i2 : Int) : Int := toInt64 (i1 * 2 ^ 32 + i2 % 2 ^ 32)

theorem waitForEventTarget_eq (now i1 i2 : Int) :
    waitForEventTarget now i1 i2 =
      if toInt64 (now + waitForEventMillis i1 i2) ≤ 0 then 0x7FFFFFFFFFFFFFFF
      else toInt64 (now + waitForEventMillis i1 i2) := rfl

theorem waitForEventMillis_lt (i1 i2 : Int) : waitForEventMillis i1 i2 < 2 ^ 63 := by
  unfold waitForEventMillis toInt64
  rw [Int.bmod_def]
  split_ifs with h <;> omega

/-- A poll after which the loop of `GLOBAL_WAITFOREVENT` breaks: `checkForEvents()` finds a
request for a pressed switch, or the clock read after it is past the deadline. -/
def waitForEventExits (reqs : List SwitchRequest) (target : Int) (poll : (Int → Bool) × Int) :
    Bool :=
  (getEventPrim false poll.1 reqs).1 ≠ 0 || decide (poll.2 > target)

theorem waitForEventLoop_eq_any (reqs : List SwitchRequest) (target : Int) :
    ∀ polls, waitForEventLoop reqs target polls = polls.any (waitForEventExits reqs target)
  | [] => rfl
  | (pressed, now) :: polls => by
    rw [waitForEventLoop, List.any_cons, waitForEventLoop_eq_any reqs target polls, waitForEventExits]

/-- For clock readings and waits that are not negative, the deadline is `now + w` capped at the
largest `long long`, except that an exact sum of `0` also becomes the cap; the loop ends at the
first poll that finds an event or reads a clock past the deadline, and the call returns `0`
with nothing changed. -/
theorem waitForEventTarget_zero_sum_saturates (K : ChannelConstants) (wrap : Int → Int)
    (env : IoEnv) (i1 i2 : Int) (s : IoState) (h0 : 0 ≤ env.now)
    (h1 : env.now ≤ 0x7FFFFFFFFFFFFFFF) (hw : 0 ≤ waitForEventMillis i1 i2) :
    waitForEventTarget env.now i1 i2 =
      (if env.now + waitForEventMillis i1 i2 = 0 then 0x7FFFFFFFFFFFFFFF
        else min (env.now + waitForEventMillis i1 i2) 0x7FFFFFFFFFFFFFFF) ∧
    ioExecute K wrap env ⟨.waitForEvent, i1, i2⟩ s =
      if env.polls.any (waitForEventExits s.switchRequests (waitForEventTarget env.now i1 i2))
      then some (0, s) else none := by
  have hlt := waitForEventMillis_lt i1 i2
  refine ⟨?_, by rw [ioExecute, waitForEventLoop_eq_any]⟩
  rw [waitForEventTarget_eq]
  generalize waitForEventMillis i1 i2 = w at *
  unfold toInt64
  rw [Int.bmod_def]
  split_ifs <;> omega

/-- A wait of `0` ms at clock `0` with no switch pressed: the deadline becomes the largest
`long long`, and a poll at clock `1` does not end the loop. -/
theorem waitForEvent_zero_wait_at_clock_zero :
    let env : IoEnv := ⟨fun _ => false, true, 0, [(fun _ => false, 1)]⟩
    (0 : Int) ≤ env.now ∧ env.now ≤ 0x7FFFFFFFFFFFFFFF ∧ 0 ≤ waitForEventMillis 0 0 ∧
      waitForEventTarget env.now 0 0 = 0x7FFFFFFFFFFFFFFF ∧
      ioExecute ⟨0, 0, 0, 0, 0⟩ id env ⟨.waitForEvent, 0, 0⟩ (IoState.init fun _ => 0) = none :=
  have h := waitForEventTarget_zero_sum_saturates ⟨0, 0, 0, 0, 0⟩ id
    ⟨fun _ => false, true, 0, [(fun _ => false, 1)]⟩ 0 0 (IoState.init fun _ => 0) le_rfl
    (by decide) (by decide)
  ⟨le_rfl, by decide, by decide, h.1.trans (by decide), h.2.trans rfl⟩

end SquawkVM
