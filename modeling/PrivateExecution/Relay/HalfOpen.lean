import PrivateExecution.Async.Machine
import PrivateExecution.Relay.Breaker

/-!
# Half-open breakers and their guards

A breaker together with the admission guards it has handed out and that are not resolved yet. The
chain breaker (one entry per chain) and the signing breaker run the same machine; the signing
breaker has no `observe`.
-/

namespace PrivateExecution

open Async

abbrev GuardId := ℕ

/-- A breaker and its unresolved guards. -/
structure Breaker where
  entry : BreakerEntry
  guards : GuardId → Option ProbeGuard
  next : GuardId

/-- The calls on a breaker and on its guards. `drop` is the destructor of an unresolved guard. -/
inductive BreakerCall where
  | admitProbe (nowMs : I64)
  | success (g : GuardId)
  | failure (g : GuardId) (nowMs : I64)
  | drop (g : GuardId)
  | observe (health : Health) (nowMs : I64)
  | recordSuccess
  | recordFailure (nowMs : I64)

namespace Breaker

def boot : Breaker := ⟨.default, fun _ => none, 0⟩

def release (s : Breaker) (g : GuardId) : Breaker :=
  { s with guards := Function.update s.guards g none }

def step (p : BreakerPolicy) (s : Breaker) : BreakerCall → Breaker
  | .admitProbe nowMs =>
    match s.entry.admitProbe nowMs with
    | (none, e) => { s with entry := e }
    | (some g, e) => ⟨e, Function.update s.guards s.next (some g), s.next + 1⟩
  | .success g =>
    match s.guards g with
    | none => s
    | some _ => { s.release g with entry := s.entry.recordSuccess }
  | .failure g nowMs =>
    match s.guards g with
    | none => s
    | some _ => { s.release g with entry := s.entry.recordFailure p nowMs }
  | .drop g =>
    match s.guards g with
    | none => s
    | some guard => { s.release g with entry := s.entry.dropGuard p guard }
  | .observe health nowMs => { s with entry := s.entry.observe p health nowMs }
  | .recordSuccess => { s with entry := s.entry.recordSuccess }
  | .recordFailure nowMs => { s with entry := s.entry.recordFailure p nowMs }

def machine (p : BreakerPolicy) : Machine BreakerCall fun _ => Unit :=
  ⟨Breaker, fun s c => ((), s.step p c)⟩

def Probing (s : Breaker) (g : GuardId) : Prop :=
  ∃ guard, s.guards g = some guard ∧ guard.consumedProbe = true

def OneProbe (s : Breaker) : Prop := ∀ g g', s.Probing g → s.Probing g' → g = g'

/-- No failure is reported past an unresolved probe: only the probe's own guard reports one. -/
def Orderly (s : Breaker) : BreakerCall → Prop
  | .failure g _ => (s.guards g).isSome → ∀ g', s.Probing g' → g' = g
  | .observe health _ => health ≠ .healthy → ∀ g, ¬ s.Probing g
  | .recordFailure _ => ∀ g, ¬ s.Probing g
  | _ => True

/-- What makes the next admission safe: an unresolved probe is flagged, or the breaker is closed. -/
structure Safe (s : Breaker) : Prop where
  one : s.OneProbe
  flagged : ∀ g, s.Probing g → s.entry.probeInFlight = true ∨ s.entry.state = .healthy
  fresh : ∀ g, s.next ≤ g → s.guards g = none

variable {p : BreakerPolicy} {s : Breaker} {g g' : GuardId} {e e' : BreakerEntry} {nowMs : I64}
  {guard : ProbeGuard}

lemma probing_release (h : (s.release g).Probing g') : g' ≠ g ∧ s.Probing g' := by
  obtain ⟨guard, hg, hc⟩ := h
  rcases eq_or_ne g' g with rfl | hne
  · simp [release] at hg
  · simp only [release, Function.update_of_ne hne] at hg
    exact ⟨hne, guard, hg, hc⟩

lemma Safe.release (h : s.Safe) (e : BreakerEntry) (hother : ∀ g', s.Probing g' → g' ≠ g →
    e.probeInFlight = true ∨ e.state = .healthy) : Safe { s.release g with entry := e } where
  one := by
    intro g₁ g₂ h₁ h₂
    exact h.one g₁ g₂ (probing_release h₁).2 (probing_release h₂).2
  flagged := by
    intro g' hg'
    obtain ⟨hne, hp⟩ := probing_release hg'
    exact hother g' hp hne
  fresh := by
    intro g' hg'
    rcases eq_or_ne g' g with rfl | hne
    · exact Function.update_self ..
    · exact (Function.update_of_ne hne _ _).trans (h.fresh g' hg')

lemma Safe.setEntry (h : s.Safe) (e : BreakerEntry)
    (he : ∀ g, s.Probing g → e.probeInFlight = true ∨ e.state = .healthy) : Safe { s with entry := e } :=
  ⟨h.one, he, h.fresh⟩

lemma safe_boot : boot.Safe where
  one := by rintro g g' ⟨guard, hg, -⟩; cases hg
  flagged := by rintro g ⟨guard, hg, -⟩; cases hg
  fresh _ _ := rfl

lemma admitProbe_consumed
    (h : e.admitProbe nowMs = (some guard, e')) (hc : guard.consumedProbe = true) :
    e.probeInFlight = false ∧ e.state ≠ .healthy ∧ e'.probeInFlight = true := by
  unfold BreakerEntry.admitProbe at h
  split at h
  · cases h
    cases hc
  all_goals
    split at h
    · cases h
    · cases h
      simp_all

lemma admitProbe_plain {r : Option ProbeGuard}
    (h : e.admitProbe nowMs = (r, e')) (hr : ∀ guard ∈ r, guard.consumedProbe = false) : e' = e := by
  unfold BreakerEntry.admitProbe at h
  split at h
  · cases h
    rfl
  all_goals
    split at h
    · cases h
      rfl
    · cases h
      cases hr _ rfl

lemma Safe.not_probing (h : s.Safe)
    (ha : s.entry.admitProbe nowMs = (some guard, e')) (hc : guard.consumedProbe = true) (g : GuardId) :
    ¬ s.Probing g := by
  intro hg
  obtain ⟨hfree, hopen, -⟩ := admitProbe_consumed ha hc
  rcases h.flagged g hg with hf | hf
  · simp [hfree] at hf
  · exact hopen hf

lemma probing_hand_out
    (h : Probing ⟨e, Function.update s.guards s.next (some guard), s.next + 1⟩ g) :
    g = s.next ∧ guard.consumedProbe = true ∨ s.Probing g := by
  obtain ⟨guard', hg, hc⟩ := h
  rcases eq_or_ne g s.next with rfl | hne
  · simp only [Function.update_self, Option.some.injEq] at hg
    exact .inl ⟨rfl, hg ▸ hc⟩
  · simp only [Function.update_of_ne hne] at hg
    exact .inr ⟨guard', hg, hc⟩

lemma Safe.admitProbe (h : s.Safe) (nowMs : I64) : (s.step p (.admitProbe nowMs)).Safe := by
  simp only [step]
  split
  · rename_i e ha
    have hsame : e = s.entry := admitProbe_plain ha (by simp)
    exact h.setEntry e (hsame ▸ h.flagged)
  · rename_i guard e ha
    have hfresh : ∀ g', s.next + 1 ≤ g' →
        Function.update s.guards s.next (some guard) g' = none := by
      intro g' hg'
      rw [Function.update_of_ne (Nat.ne_of_gt hg')]
      exact h.fresh g' (Nat.le_of_succ_le hg')
    cases hc : guard.consumedProbe with
    | true =>
      have hnone := h.not_probing ha hc
      have hflag := (admitProbe_consumed ha hc).2.2
      refine ⟨?_, fun _ _ => .inl hflag, hfresh⟩
      intro g g' hg hg'
      obtain ⟨rfl, -⟩ := (probing_hand_out hg).resolve_right (hnone g)
      obtain ⟨rfl, -⟩ := (probing_hand_out hg').resolve_right (hnone g')
      rfl
    | false =>
      have hold : ∀ g, Probing ⟨e, Function.update s.guards s.next (some guard), s.next + 1⟩ g →
          s.Probing g := by
        intro g hg
        exact (probing_hand_out hg).resolve_left (by simp [hc])
      have hsame : e = s.entry := admitProbe_plain ha (by simpa using hc)
      refine ⟨fun g g' hg hg' => h.one g g' (hold g hg) (hold g' hg'), fun g hg => ?_, hfresh⟩
      exact hsame ▸ h.flagged g (hold g hg)

lemma Safe.step (h : s.Safe) (c : BreakerCall) (hok : s.Orderly c) : (s.step p c).Safe := by
  cases c with
  | admitProbe nowMs => exact h.admitProbe nowMs
  | success g =>
    cases hg : s.guards g with
    | none => simpa only [Breaker.step, hg] using h
    | some guard =>
      simp only [Breaker.step, hg]
      exact h.release _ fun _ _ _ => .inr rfl
  | failure g nowMs =>
    cases hg : s.guards g with
    | none => simpa only [Breaker.step, hg] using h
    | some guard =>
      simp only [Breaker.step, hg]
      have honly : ∀ g', s.Probing g' → g' = g := hok (by simp [hg])
      exact h.release _ fun g' hg' hne => absurd (honly g' hg') hne
  | drop g =>
    cases hg : s.guards g with
    | none => simpa only [Breaker.step, hg] using h
    | some guard =>
      simp only [Breaker.step, hg]
      refine h.release _ fun g' hg' hne => ?_
      cases hc : guard.consumedProbe with
      | true => exact absurd (h.one g' g hg' ⟨guard, hg, hc⟩) hne
      | false => simpa [BreakerEntry.dropGuard, hc] using h.flagged g' hg'
  | observe health nowMs =>
    refine h.setEntry _ fun g hg => ?_
    cases health with
    | healthy => exact h.flagged g hg
    | degraded => exact absurd hg (hok nofun g)
    | unavailable => exact absurd hg (hok nofun g)
  | recordSuccess => exact h.setEntry _ fun _ _ => .inr rfl
  | recordFailure nowMs => exact h.setEntry _ fun g hg => absurd hg (hok g)

/-- In every run in which no failure is reported past an unresolved half-open probe, at most one
such probe is unresolved, and while it is no other one is admitted. -/
theorem one_probe (p : BreakerPolicy) (calls : List BreakerCall) (h : (machine p).Meets Orderly boot calls) :
    OneProbe ((machine p).run boot calls) ∧
      ∀ nowMs guard g, Probing ((machine p).run boot calls) g →
        (BreakerEntry.admitProbe (Breaker.entry ((machine p).run boot calls)) nowMs).1 = some guard →
        guard.consumedProbe = false := by
  have hsafe : Safe ((machine p).run boot calls) :=
    h.invariant safe_boot fun s c hs hok => hs.step c hok
  refine ⟨hsafe.one, fun nowMs guard g hg ha => ?_⟩
  by_contra hc
  exact hsafe.not_probing (Prod.ext ha rfl) (by simpa using hc) g hg

/-- A failure opens the breaker, it admits a probe and refuses a second one. -/
def recovery : List BreakerCall :=
  [.admitProbe I64.zero, .failure 0 I64.zero, .admitProbe I64.zero, .admitProbe I64.zero]

theorem one_probe_in_recovery :
    (machine .chainDefault).Meets Orderly boot recovery ∧
      Probing ((machine .chainDefault).run boot recovery) 1 ∧
      OneProbe ((machine .chainDefault).run boot recovery) := by
  have hok : (machine .chainDefault).Meets Orderly boot recovery := by
    refine ⟨trivial, ?_, trivial, trivial, trivial⟩
    rintro - g ⟨guard, hg, hc⟩
    rcases eq_or_ne g 0 with rfl | hne
    · rfl
    · cases (Function.update_of_ne hne _ _).symm.trans hg
  exact ⟨hok, ⟨⟨I64.zero, true⟩, rfl, rfl⟩, (one_probe .chainDefault _ hok).1⟩

/-- Two guards are handed out while the breaker is healthy; the first fails and the breaker admits a
half-open probe; the second fails and the breaker admits another one. -/
def lateFailure : List BreakerCall :=
  [.admitProbe I64.zero, .admitProbe I64.zero, .failure 0 I64.zero, .admitProbe I64.zero,
    .failure 1 I64.zero, .admitProbe I64.zero]

/-- With either default policy the late failure leaves two half-open probes unresolved. -/
theorem two_probes :
    ¬ OneProbe ((machine .chainDefault).run boot lateFailure) ∧
      ¬ OneProbe ((machine .signingDefault).run boot lateFailure) := by
  constructor
  · intro h
    exact absurd (h 2 3 ⟨⟨I64.zero, true⟩, rfl, rfl⟩ ⟨⟨I64.zero, true⟩, rfl, rfl⟩) (by decide)
  · intro h
    exact absurd (h 2 3 ⟨⟨I64.zero, true⟩, rfl, rfl⟩ ⟨⟨I64.zero, true⟩, rfl, rfl⟩) (by decide)

/-! ## Cooldown windows -/

def failureAt (s : Breaker) : BreakerCall → Option I64
  | .failure g nowMs => (s.guards g).map fun _ => nowMs
  | .drop g => (s.guards g).bind fun guard =>
      if guard.consumedProbe then some guard.admittedAtMs else none
  | .observe health nowMs => if health = .healthy then none else some nowMs
  | .recordFailure nowMs => some nowMs
  | .admitProbe _ | .success _ | .recordSuccess => none

/-- A failure that the call records does not bring the end of an open window forward. -/
def Lengthens (p : BreakerPolicy) (s : Breaker) (c : BreakerCall) : Prop :=
  (s.failureAt c).isSome → s.entry.state = .unavailable →
    s.entry.cooldownUntilMs ≤ (s.step p c).entry.cooldownUntilMs

/-- A breaker with the date of the last failure it has recorded. -/
structure Dated where
  breaker : Breaker
  lastFailure : Option I64

/-- The breaker as a machine that keeps the date of the last failure. -/
def datedMachine (p : BreakerPolicy) : Machine BreakerCall fun _ => Unit :=
  ⟨Dated, fun d c => ((), ⟨d.breaker.step p c, (d.breaker.failureAt c).or d.lastFailure⟩)⟩

/-- A failure recorded while the breaker is open is dated no earlier than the failure before it (or so
late that the end of its window is the end of the clock). -/
def Dated.Forward (p : BreakerPolicy) (d : Dated) (c : BreakerCall) : Prop :=
  ∀ t ∈ d.breaker.failureAt c, d.breaker.entry.state = .unavailable →
    ∀ last ∈ d.lastFailure, last ≤ t ∨ 2 ^ 63 ≤ t.val + p.cooldownMs.val + 1

/-- The window of an open breaker was set by the last failure. -/
def Dated.Current (p : BreakerPolicy) (d : Dated) : Prop :=
  d.breaker.entry.state = .unavailable →
    ∃ last, d.lastFailure = some last ∧
      d.breaker.entry.cooldownUntilMs = last.saturatingAdd p.cooldownMs ∧
      p.failureThreshold ≤ d.breaker.entry.consecutiveFailures

lemma step_of_failureAt {t : I64} {c : BreakerCall} (h : s.failureAt c = some t) :
    (s.step p c).entry = s.entry.recordFailure p t := by
  cases c with
  | failure g nowMs =>
    obtain ⟨guard, hg, rfl⟩ := Option.map_eq_some_iff.1 h
    simp [step, hg]
  | drop g =>
    obtain ⟨guard, hg, hc⟩ := Option.bind_eq_some_iff.1 h
    split_ifs at hc with hprobe
    cases hc
    simp [step, hg, BreakerEntry.dropGuard, hprobe]
  | observe health nowMs =>
    simp only [failureAt] at h
    split_ifs at h with hh
    cases h
    cases health <;> simp_all [step, BreakerEntry.observe]
  | recordFailure nowMs =>
    cases h
    rfl
  | admitProbe nowMs => cases h
  | success g => cases h
  | recordSuccess => cases h

lemma step_of_no_failure {c : BreakerCall} (h : s.failureAt c = none) :
    (s.step p c).entry = s.entry ∨ (s.step p c).entry.state ≠ .unavailable := by
  cases c with
  | failure g nowMs =>
    have hg : s.guards g = none := Option.map_eq_none_iff.1 h
    simp [step, hg]
  | drop g =>
    cases hg : s.guards g with
    | none => simp [step, hg]
    | some guard =>
      have hc : guard.consumedProbe = false := by simpa [failureAt, hg] using h
      simp [step, hg, BreakerEntry.dropGuard, hc]
  | observe health nowMs =>
    have hh : health = .healthy := by simpa [failureAt] using h
    exact .inl (by simp [step, hh, BreakerEntry.observe])
  | recordFailure nowMs => cases h
  | admitProbe nowMs =>
    cases hs : s.entry.state with
    | healthy => exact .inl (by simp [step, BreakerEntry.admitProbe, hs])
    | degraded => by_cases hf : s.entry.probeInFlight <;> simp [step, BreakerEntry.admitProbe, hs, hf]
    | unavailable =>
      by_cases hf : nowMs < s.entry.cooldownUntilMs ∨ s.entry.probeInFlight = true <;>
        simp [step, BreakerEntry.admitProbe, hs, hf]
  | success g => cases hg : s.guards g <;> simp [step, hg, BreakerEntry.recordSuccess]
  | recordSuccess => exact .inr (by simp [step, BreakerEntry.recordSuccess])

lemma saturatingAdd_le_iff (p : BreakerPolicy) {a b : I64} :
    a.saturatingAdd p.cooldownMs ≤ b.saturatingAdd p.cooldownMs ↔
      a ≤ b ∨ 2 ^ 63 ≤ b.val + p.cooldownMs.val + 1 := by
  have hcool := p.cooldown_nonneg
  have ha := a.inRange
  have hb := b.inRange
  simp only [I64.le_def, I64.saturatingAdd, I64.clamp]
  omega

lemma recordFailure_of_reached (h : p.failureThreshold ≤ e.consecutiveFailures)
    (t : I64) : (e.recordFailure p t).cooldownUntilMs = t.saturatingAdd p.cooldownMs := by
  have hgrow : p.failureThreshold ≤ e.consecutiveFailures.saturatingAdd (.lit 1) := by
    unfold Unsigned.saturatingAdd
    cases hadd : e.consecutiveFailures.checkedAdd (.lit 1) with
    | some n =>
      have hn := Unsigned.checkedAdd_eq_some.1 hadd
      exact Nat.le_trans h (by simp [hn])
    | none => exact Nat.le_pred_of_lt p.failureThreshold.lt
  simp [BreakerEntry.recordFailure, hgrow]

namespace Dated

variable {d : Dated}

lemma current_step (h : d.Current p) (c : BreakerCall) : Current p ((datedMachine p).step d c).2 := by
  intro hopen
  simp only [datedMachine] at hopen ⊢
  cases hc : d.breaker.failureAt c with
  | some t =>
    rw [step_of_failureAt hc] at hopen ⊢
    refine ⟨t, rfl, ?_⟩
    simp only [BreakerEntry.recordFailure] at hopen ⊢
    split_ifs at hopen ⊢ with hreach
    exact ⟨rfl, hreach⟩
  | none =>
    rcases step_of_no_failure (p := p) hc with hsame | hclosed
    · rw [hsame] at hopen ⊢
      exact h hopen
    · exact absurd hopen hclosed

lemma forward_iff (h : d.Current p) (c : BreakerCall) : d.Forward p c ↔ d.breaker.Lengthens p c := by
  cases hc : d.breaker.failureAt c with
  | none => simp [Forward, Lengthens, hc]
  | some t =>
    simp only [Forward, Lengthens, hc, Option.isSome_some, forall_const, Option.mem_def,
      Option.some.injEq, forall_eq']
    refine forall_congr' fun hopen => ?_
    obtain ⟨last, hlast, huntil, hreach⟩ := h hopen
    rw [step_of_failureAt hc, recordFailure_of_reached hreach, huntil, saturatingAdd_le_iff, hlast]
    simp

end Dated

/-- In a run, recorded failures never bring the end of an open window forward exactly if each of them
that finds the breaker open is dated no earlier than the failure recorded before it. -/
theorem failures_lengthen_iff (p : BreakerPolicy) (calls : List BreakerCall) :
    (datedMachine p).Meets (Dated.Forward p) (⟨boot, none⟩ : Dated) calls ↔
      (machine p).Meets (Lengthens p) boot calls := by
  suffices hrun : ∀ d : Dated, d.Current p → ((datedMachine p).Meets (Dated.Forward p) d calls ↔
      (machine p).Meets (Lengthens p) d.breaker calls) from hrun ⟨boot, none⟩ (by intro h; cases h)
  induction calls with
  | nil => exact fun _ _ => Iff.rfl
  | cons c calls ih =>
    intro d hd
    exact and_congr (Dated.forward_iff hd c) (ih _ (Dated.current_step hd c))

/-- A failure opens the breaker until 1000, a probe is admitted then, an adapter reading at 1500
re-opens the breaker until 2500, and the probe is dropped. -/
def lateDrop : List BreakerCall :=
  [.observe .unavailable I64.zero, .admitProbe (.lit 1000), .observe .unavailable (.lit 1500), .drop 0]

def clock : BreakerCall → Option I64
  | .admitProbe nowMs | .observe _ nowMs => some nowMs
  | _ => none

/-- The dropped probe is recorded as a failure at 1000 and ends the window at 2000: admissions and
readings carry non-decreasing times, and a recorded failure shortens the open window. -/
theorem dropped_probe_shortens :
    (lateDrop.filterMap clock).Pairwise (· ≤ ·) ∧
      ¬ (machine (.new (.lit 1) (.lit 1000))).Meets (Lengthens (.new (.lit 1) (.lit 1000))) boot lateDrop ∧
      ((machine (.new (.lit 1) (.lit 1000))).run boot (lateDrop.take 3) : Breaker).entry =
        ⟨.lit 2, .unavailable, .lit 2500, false⟩ ∧
      ((machine (.new (.lit 1) (.lit 1000))).run boot lateDrop : Breaker).entry =
        ⟨.lit 3, .unavailable, .lit 2000, false⟩ := by
  refine ⟨by decide +kernel, ?_, by decide +kernel, by decide +kernel⟩
  rintro ⟨-, -, -, hdrop, -⟩
  exact absurd (hdrop (by decide +kernel) (by decide +kernel)) (by decide +kernel)

end Breaker

end PrivateExecution
