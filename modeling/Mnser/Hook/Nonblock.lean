import Mnser.Hook.Model
import Mnser.IOManager.Slots

/-! # Two views of O_NONBLOCK

    A hooked socket is always non-blocking in the kernel, so that `do_io`
    gets `EAGAIN` instead of blocking its thread; what the application has
    asked for is kept in `FdCtx`.  `fcntl` translates between the two views.
    `ioctl` with `FIONBIO` records the request as well, but hands it on to the
    kernel as it is. -/

namespace MNSER

open LTS

/-! ## Section 1: Status flags -/

/-- The file status flags of an open file. -/
abbrev StatusFlags : Type := BitVec 32

def O_APPEND   : StatusFlags := 0x400#32
def O_NONBLOCK : StatusFlags := 0x800#32
def O_ASYNC    : StatusFlags := 0x2000#32
def O_DIRECT   : StatusFlags := 0x4000#32
def O_NOATIME  : StatusFlags := 0x40000#32

/-- The flags `F_SETFL` can change. -/
def SETFL_MASK : StatusFlags := O_APPEND ||| O_NONBLOCK ||| O_ASYNC ||| O_DIRECT ||| O_NOATIME

/-- `flags & O_NONBLOCK` as a condition. -/
def StatusFlags.nonblock (flags : StatusFlags) : Bool := Events.test flags O_NONBLOCK

/-- `fcntl_f(fd, F_SETFL, arg)` -/
def setfl_f (flags arg : StatusFlags) : StatusFlags :=
  (flags &&& ~~~SETFL_MASK) ||| (arg &&& SETFL_MASK)

/-- `ioctl_f(fd, FIONBIO, &b)` -/
def fionbio_f (flags : StatusFlags) (b : Int) : StatusFlags :=
  if b ≠ 0 then flags ||| O_NONBLOCK else flags &&& ~~~O_NONBLOCK

namespace StatusFlags

/-- `O_NONBLOCK` is bit 11. -/
theorem nonblock_eq (flags : StatusFlags) : flags.nonblock = flags.getLsbD 11 :=
  Events.test_eq_getLsbD flags 11 (by omega)

/-- The flag is there after it has been set. -/
@[simp] theorem nonblock_or (flags : StatusFlags) : (flags ||| O_NONBLOCK).nonblock = true := by
  simp [nonblock_eq, O_NONBLOCK]

/-- The flag is gone after it has been cleared. -/
@[simp] theorem nonblock_clear (flags : StatusFlags) :
    (flags &&& ~~~O_NONBLOCK).nonblock = false := by
  simp [nonblock_eq, O_NONBLOCK]

/-- `F_SETFL` takes the flag from its argument. -/
@[simp] theorem nonblock_setfl (flags arg : StatusFlags) :
    (setfl_f flags arg).nonblock = arg.nonblock := by
  simp [nonblock_eq, setfl_f, SETFL_MASK, O_APPEND, O_NONBLOCK, O_ASYNC, O_DIRECT, O_NOATIME]

end StatusFlags

/-! ## Section 2: The hooks -/

/-- The bit fields of `FdCtx`. -/
structure FdCtxBits where
  isInit       : Bool
  isSocket     : Bool
  sysNonblock  : Bool
  userNonblock : Bool
  isClosed     : Bool
  deriving DecidableEq, Repr

/-- `FdCtx::FdCtx` with `init`: the context, and the flags in the kernel
    afterwards.  `stat` is what `fstat` says: nothing, or whether the fd is a
    socket. -/
def FdCtxBits.init (stat : Option Bool) (flags : StatusFlags) : FdCtxBits × StatusFlags :=
  let isSocket := stat.getD false
  let flags :=
    if isSocket && !flags.nonblock then setfl_f flags (flags ||| O_NONBLOCK) else flags
  (⟨stat.isSome, isSocket, isSocket, false, false⟩, flags)

/-- `FdManager` and the kernel's table. -/
structure FdTable where
  /-- the flags of the fds in use -/
  flags     : Int → Option StatusFlags
  datas     : Int → Option FdCtxBits
  /-- what the application asked for last -/
  requested : Int → Bool

inductive FdTableLabel where
  /-- `socket` or `accept` with the fd and the flags the kernel gives it -/
  | create (fd : Int) (flags : StatusFlags)
  | setfl (fd : Int) (arg : StatusFlags)
  | getfl (fd : Int)
  | fionbio (fd : Int) (b : Int)
  | close (fd : Int)

namespace FdTable

def setFlags (s : FdTable) (fd : Int) (flags : Option StatusFlags) : FdTable :=
  { s with flags := fun j => if j = fd then flags else s.flags j }

def setData (s : FdTable) (fd : Int) (ctx : Option FdCtxBits) : FdTable :=
  { s with datas := fun j => if j = fd then ctx else s.datas j }

def request (s : FdTable) (fd : Int) (nonblock : Bool) : FdTable :=
  { s with requested := fun j => if j = fd then nonblock else s.requested j }

/-- `FdMgr::GetInstance()->get(fd, true)` for a socket. -/
def getCtx (s : FdTable) (fd : Int) (flags : StatusFlags) : FdTable :=
  match s.datas fd with
  | some _ => s
  | none =>
    let (ctx, flags) := FdCtxBits.init (some true) flags
    (s.setData fd (some ctx)).setFlags fd (some flags)

/-- `!ctx || ctx->isClose() || !ctx->isSocket()` fails. -/
def hooked (s : FdTable) (fd : Int) : Option FdCtxBits :=
  (s.datas fd).filter fun ctx => !ctx.isClosed && ctx.isSocket

/-- `fcntl(fd, F_SETFL, arg)` -/
def fcntl_setfl (s : FdTable) (fd : Int) (flags arg : StatusFlags) : FdTable :=
  match s.hooked fd with
  | none => s.setFlags fd (some (setfl_f flags arg))
  | some ctx =>
    let s := s.setData fd (some { ctx with userNonblock := arg.nonblock })
    let arg := if ctx.sysNonblock then arg ||| O_NONBLOCK else arg &&& ~~~O_NONBLOCK
    s.setFlags fd (some (setfl_f flags arg))

/-- `fcntl(fd, F_GETFL)` -/
def fcntl_getfl (s : FdTable) (fd : Int) (flags : StatusFlags) : StatusFlags :=
  match s.hooked fd with
  | none => flags
  | some ctx => if ctx.userNonblock then flags ||| O_NONBLOCK else flags &&& ~~~O_NONBLOCK

/-- `ioctl(fd, FIONBIO, &b)` -/
def ioctl_fionbio (s : FdTable) (fd : Int) (flags : StatusFlags) (b : Int) : FdTable :=
  match s.hooked fd with
  | none => s.setFlags fd (some (fionbio_f flags b))
  | some ctx =>
    (s.setData fd (some { ctx with userNonblock := decide (b ≠ 0) })).setFlags fd
      (some (fionbio_f flags b))

/-- All system calls succeed; the kernel hands out numbers that are not in
    use. -/
def next (s : FdTable) : FdTableLabel → Option FdTable
  | .create fd flags =>
    if s.flags fd = none then
      some (((s.setFlags fd (some flags)).request fd false).getCtx fd flags)
    else none
  | .setfl fd arg =>
    (s.flags fd).map fun flags => (s.fcntl_setfl fd flags arg).request fd arg.nonblock
  | .getfl fd => (s.flags fd).map fun _ => s
  | .fionbio fd b =>
    (s.flags fd).map fun flags => (s.ioctl_fionbio fd flags b).request fd (decide (b ≠ 0))
  | .close fd => some ((s.setData fd none).setFlags fd none)

def start : FdTable where
  flags     := fun _ => none
  datas     := fun _ => none
  requested := fun _ => false

end FdTable

def fdTables : System FdTable FdTableLabel where
  init := fun s => s = FdTable.start
  next := FdTable.next

/-! ## Section 3: The two views -/

def FdTableLabel.fd : FdTableLabel → Int
  | .create fd _  => fd
  | .setfl fd _   => fd
  | .getfl fd     => fd
  | .fionbio fd _ => fd
  | .close fd     => fd

/-- `ioctl(fd, FIONBIO, &b)` with `b` 0 -/
def FdTableLabel.clears : FdTableLabel → Bool
  | .fionbio _ b => decide (b = 0)
  | _            => false

namespace FdTable

/-- An fd in use never blocks in the kernel, and the application sees what it
    asked for. -/
def Views (s : FdTable) : Prop :=
  ∀ fd flags, s.flags fd = some flags →
    flags.nonblock = true ∧
    (∃ ctx, s.datas fd = some ctx ∧ ctx.userNonblock = s.requested fd) ∧
    (s.fcntl_getfl fd flags).nonblock = s.requested fd

/-- What the table holds for an fd, whatever the kernel's flags are. -/
def Recorded : Option StatusFlags → Option FdCtxBits → Bool → Prop
  | none, none, _ => True
  | some _, some ctx, requested =>
    ctx.isClosed = false ∧ ctx.isSocket = true ∧ ctx.sysNonblock = true ∧
      ctx.userNonblock = requested
  | _, _, _ => False

def Inv (s : FdTable) : Prop := ∀ fd, Recorded (s.flags fd) (s.datas fd) (s.requested fd)

/-- Every fd in use is non-blocking in the kernel. -/
def Kernel (s : FdTable) : Prop := ∀ fd, ∀ flags ∈ s.flags fd, flags.nonblock = true

theorem Inv.hooked {s : FdTable} (h : Inv s) {fd : Int} {flags : StatusFlags}
    (hflags : s.flags fd = some flags) :
    ∃ ctx, s.datas fd = some ctx ∧ s.hooked fd = some ctx ∧ ctx.isClosed = false ∧
      ctx.isSocket = true ∧ ctx.sysNonblock = true ∧ ctx.userNonblock = s.requested fd := by
  have hfd := h fd
  rw [hflags] at hfd
  cases hdata : s.datas fd with
  | none =>
    rw [hdata] at hfd
    cases hfd
  | some ctx =>
    rw [hdata] at hfd
    obtain ⟨hclosed, hsocket, hsys, huser⟩ := hfd
    exact ⟨ctx, rfl, by simp [FdTable.hooked, hdata, hclosed, hsocket], hclosed, hsocket, hsys,
      huser⟩

/-- Only the kernel's flag can be wrong. -/
theorem Inv.views_iff_kernel {s : FdTable} (h : Inv s) : s.Views ↔ s.Kernel := by
  constructor
  · intro hviews fd flags hflags
    exact (hviews fd flags hflags).1
  · intro hkernel fd flags hflags
    obtain ⟨ctx, hdata, hhooked, _, _, _, huser⟩ := h.hooked hflags
    refine ⟨hkernel fd flags hflags, ⟨ctx, hdata, huser⟩, ?_⟩
    unfold fcntl_getfl
    rw [hhooked, ← huser]
    cases hb : ctx.userNonblock with
    | true => simp [hb]
    | false => simp [hb]

/-! ## Section 4: Steps -/

/-- A step looks after its own fd: what it records there, and when the kernel
    flag is set there afterwards. -/
structure Looks (s t : FdTable) (l : FdTableLabel) : Prop where
  others   : ∀ fd, fd ≠ l.fd → t.flags fd = s.flags fd ∧ t.datas fd = s.datas fd ∧
               t.requested fd = s.requested fd
  recorded : Recorded (t.flags l.fd) (t.datas l.fd) (t.requested l.fd)
  kernel   : (∀ flags ∈ s.flags l.fd, flags.nonblock = true) →
               ((∀ flags ∈ t.flags l.fd, flags.nonblock = true) ↔ l.clears = false)

/-- A new socket looks blocking to the user and is not for the kernel. -/
theorem looks_create {s : FdTable} (h : Inv s) {fd : Int} (flags : StatusFlags)
    (hnone : s.flags fd = none) :
    Looks s (((s.setFlags fd (some flags)).request fd false).getCtx fd flags)
      (.create fd flags) := by
  -- a number that is not open has no context
  have hdata : s.datas fd = none := by
    have hfd := h fd
    rw [hnone] at hfd
    cases hdata : s.datas fd with
    | none => rfl
    | some ctx =>
      rw [hdata] at hfd
      cases hfd
  have hget : ((s.setFlags fd (some flags)).request fd false).getCtx fd flags =
      ((((s.setFlags fd (some flags)).request fd false).setData fd
        (some (FdCtxBits.init (some true) flags).1)).setFlags fd
        (some (FdCtxBits.init (some true) flags).2)) := by
    unfold getCtx
    rw [show ((s.setFlags fd (some flags)).request fd false).datas fd = none from hdata]
  rw [hget]
  refine ⟨fun j hj => ?_, ?_, fun _ => iff_of_true ?_ rfl⟩
  · have hne : j ≠ fd := hj
    simp [setFlags, setData, request, hne]
  · simp [FdTableLabel.fd, setFlags, setData, request, Recorded, FdCtxBits.init]
  · intro fl hfl
    simp only [FdTableLabel.fd, setFlags, if_true, Option.mem_some_iff] at hfl
    subst hfl
    unfold FdCtxBits.init
    by_cases hset : flags.nonblock = true
    · simp [hset]
    · simp [hset]

/-- `F_SETFL` records what the user asks for, and leaves the flag of the kernel set.
    -/
theorem looks_setfl {s : FdTable} (h : Inv s) {fd : Int} {flags : StatusFlags}
    (hflags : s.flags fd = some flags) (arg : StatusFlags) :
    Looks s ((s.fcntl_setfl fd flags arg).request fd arg.nonblock) (.setfl fd arg) := by
  obtain ⟨ctx, _, hhooked, hclosed, hsocket, hsys, _⟩ := h.hooked hflags
  unfold fcntl_setfl
  rw [hhooked]
  refine ⟨fun j hj => ?_, ?_, fun _ => iff_of_true ?_ rfl⟩
  · have hne : j ≠ fd := hj
    simp [setFlags, setData, request, hne]
  · simp [FdTableLabel.fd, setFlags, setData, request, Recorded, hclosed, hsocket, hsys]
  · simp [FdTableLabel.fd, setFlags, setData, request, hsys]

/-- `FIONBIO` records it as well, and the kernel gets what the user asked for. -/
theorem looks_fionbio {s : FdTable} (h : Inv s) {fd : Int} {flags : StatusFlags}
    (hflags : s.flags fd = some flags) (b : Int) :
    Looks s ((s.ioctl_fionbio fd flags b).request fd (decide (b ≠ 0))) (.fionbio fd b) := by
  obtain ⟨ctx, _, hhooked, hclosed, hsocket, hsys, _⟩ := h.hooked hflags
  unfold ioctl_fionbio
  rw [hhooked]
  refine ⟨fun j hj => ?_, ?_, fun _ => ?_⟩
  · have hne : j ≠ fd := hj
    simp [setFlags, setData, request, hne]
  · simp [FdTableLabel.fd, setFlags, setData, request, Recorded, hclosed, hsocket, hsys]
  · -- the kernel gets the request as it is
    by_cases hb : b = 0
    · simp [FdTableLabel.fd, FdTableLabel.clears, setFlags, setData, request, fionbio_f, hb]
    · simp [FdTableLabel.fd, FdTableLabel.clears, setFlags, setData, request, fionbio_f, hb]

/-- Every step looks after its own fd. -/
theorem looks_next {s t : FdTable} {l : FdTableLabel} (h : Inv s) (hnext : s.next l = some t) :
    Looks s t l := by
  cases l with
  | create fd flags =>
    obtain ⟨hnone, heq⟩ := Option.ite_none_right_eq_some.mp hnext
    obtain rfl := Option.some.inj heq
    exact looks_create h flags hnone
  | setfl fd arg =>
    obtain ⟨flags, hflags, rfl⟩ := Option.map_eq_some_iff.mp hnext
    exact looks_setfl h hflags arg
  | getfl fd =>
    obtain ⟨flags, hflags, rfl⟩ := Option.map_eq_some_iff.mp hnext
    exact ⟨fun _ _ => ⟨rfl, rfl, rfl⟩, h fd, fun hkernel => iff_of_true hkernel rfl⟩
  | fionbio fd b =>
    obtain ⟨flags, hflags, rfl⟩ := Option.map_eq_some_iff.mp hnext
    exact looks_fionbio h hflags b
  | close fd =>
    obtain rfl := Option.some.inj hnext
    refine ⟨fun j hj => ?_, ?_, fun _ => iff_of_true ?_ rfl⟩
    · have hne : j ≠ fd := hj
      simp [setFlags, setData, hne]
    · simp [FdTableLabel.fd, setFlags, setData, Recorded]
    · simp [FdTableLabel.fd, setFlags, setData]

/-- The table goes on recording every fd in use. -/
theorem inv_next {s t : FdTable} {l : FdTableLabel} (h : Inv s) (hnext : s.next l = some t) :
    Inv t := by
  have hlooks := looks_next h hnext
  intro fd
  by_cases hfd : fd = l.fd
  · subst hfd
    exact hlooks.recorded
  · obtain ⟨hflags, hdata, hrequested⟩ := hlooks.others fd hfd
    rw [hflags, hdata, hrequested]
    exact h fd

/-- Only `FIONBIO` with 0 lets the kernel block. -/
theorem kernel_next {s t : FdTable} {l : FdTableLabel} (h : Inv s) (hkernel : s.Kernel)
    (hnext : s.next l = some t) : t.Kernel ↔ l.clears = false := by
  have hlooks := looks_next h hnext
  rw [← hlooks.kernel (hkernel l.fd)]
  constructor
  · intro ht
    exact ht l.fd
  · intro hl fd flags hflags
    by_cases hfd : fd = l.fd
    · subst hfd
      exact hl flags hflags
    · rw [(hlooks.others fd hfd).1] at hflags
      exact hkernel fd flags hflags

theorem inv_start : Inv FdTable.start := fun _ => trivial

end FdTable

/-- The two views of `O_NONBLOCK` agree in all states of a run exactly if it
    has no `ioctl` that asks for blocking. -/
theorem views_iff {s₀ s : FdTable} {tr : List (FdTable × FdTableLabel)}
    (hinit : fdTables.init s₀) (hrun : Run fdTables s₀ tr s) :
    (∀ u ∈ states tr s, u.Views) ↔ ∀ p ∈ tr, p.2.clears = false := by
  have hstart : s₀.Inv ∧ s₀.Kernel := by
    rw [show s₀ = FdTable.start from hinit]
    exact ⟨FdTable.inv_start, fun fd flags hflags => by cases hflags⟩
  have hinv := hrun.states_invariant (I := FdTable.Inv) (G := fun _ _ => True)
    (fun _ _ _ h _ hnext => FdTable.inv_next h hnext) (fun _ _ => trivial) hstart.1
  have hexact := hrun.states_iff (I := FdTable.Inv) (P := FdTable.Kernel)
    (G := fun _ l => l.clears = false) (fun _ _ _ h _ hnext => FdTable.inv_next h hnext)
    (fun _ _ _ h hkernel hnext => FdTable.kernel_next h hkernel hnext) hstart.1 hstart.2
  rw [← hexact]
  constructor
  · intro hviews u hu
    exact (hinv u hu).views_iff_kernel.mp (hviews u hu)
  · intro hgood u hu
    exact (hinv u hu).views_iff_kernel.mpr (hgood u hu)

/-- Non-blocking and back again, through `fcntl` only. -/
theorem views_iff_fcntl :
    ∃ tr s, Run fdTables FdTable.start tr s ∧ (∀ u ∈ states tr s, u.Views) ∧
      s.requested 7 = false := by
  let labels : List FdTableLabel :=
    [.create 7 0x2#32, .fionbio 7 1, .setfl 7 0x802#32, .getfl 7, .setfl 7 0x402#32, .getfl 7]
  have hrun := fdTables.run_of_exec (s := FdTable.start) labels (by decide)
  exact ⟨_, _, hrun, (views_iff rfl hrun).mpr (by decide), by decide⟩

/-- After `ioctl(fd, FIONBIO, &b)` with `b` 0 the socket blocks in the kernel. -/
theorem views_broken :
    ∃ tr s, Run fdTables FdTable.start tr s ∧ ¬ s.Views := by
  let labels : List FdTableLabel := [.create 7 0x2#32, .fionbio 7 0]
  have hrun := fdTables.run_of_exec (s := FdTable.start) labels (by decide)
  refine ⟨_, _, hrun, fun hviews => ?_⟩
  have hset := (hviews 7 0x2#32 (by decide)).1
  cases hset

end MNSER
