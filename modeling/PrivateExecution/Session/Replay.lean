import PrivateExecution.Domain.Primitives
import Mathlib.Data.List.Induction

/-!
# The replay windows

Two sliding windows over the accepted sequences, in `session-transport/src/lib.rs` and in
`crypto-envelope/src/lib.rs`: the highest sequence that was accepted and a bitmap of the 64 sequences
that end with it. `Tracks` says which list of accepted sequences a window stands for.
-/

namespace PrivateExecution.Replay

/-- The errors of `accept`. -/
inductive SessionError where
  | staleSequence | replayDetected

inductive CryptoError where
  | invalidSequence (sequence : U64) | staleSequence (sequence : U64) | replayDetected (sequence : U64)

def replayWindow : ℕ := 64

structure ReplayWindow where
  highest : Option U64
  bitmap : BitVec 64

def ReplayWindow.default : ReplayWindow := ⟨none, 0⟩

def ReplayWindow.accept (w : ReplayWindow) (sequence : U64) : Except SessionError Unit × ReplayWindow :=
  match w.highest with
  | none => (.ok (), ⟨some sequence, 1#64⟩)
  | some highest =>
    if highest.val < sequence.val then
      let delta := sequence.val - highest.val
      (.ok (), ⟨some sequence, if replayWindow ≤ delta then 1#64 else w.bitmap <<< delta ||| 1#64⟩)
    else
      let offset := highest.val - sequence.val
      if replayWindow ≤ offset then (.error .staleSequence, w)
      else
        let bit := 1#64 <<< offset
        if w.bitmap &&& bit ≠ 0 then (.error .replayDetected, w)
        else (.ok (), ⟨some highest, w.bitmap ||| bit⟩)

/-- The window of the envelope crate, which has no sequence 0: a highest sequence of 0 is a fresh window. -/
structure CryptoWindow where
  highest : U64
  bitmap : BitVec 64

def CryptoWindow.new : CryptoWindow := ⟨.zero, 0⟩

variable (w : CryptoWindow)

def CryptoWindow.accept (sequence : U64) : Except CryptoError Unit × CryptoWindow :=
  if sequence.val = 0 then (.error (.invalidSequence sequence), w)
  else if w.highest.val = 0 then (.ok (), ⟨sequence, 1#64⟩)
  else if w.highest.val < sequence.val then
    let delta := sequence.val - w.highest.val
    (.ok (), ⟨sequence, if 64 ≤ delta then 1#64 else w.bitmap <<< delta ||| 1#64⟩)
  else
    let offset := w.highest.val - sequence.val
    if 64 ≤ offset then (.error (.staleSequence sequence), w)
    else
      let bit := 1#64 <<< offset
      if w.bitmap &&& bit ≠ 0 then (.error (.replayDetected sequence), w)
      else (.ok (), ⟨w.highest, w.bitmap ||| bit⟩)

/-- The window after some calls, and the sequences it has accepted, newest first. -/
def replay {W E : Type} (accept : W → U64 → Except E Unit × W) (w : W) (calls : List U64) : W × List U64 :=
  calls.foldl (fun s n => ((accept s.1 n).2, if (accept s.1 n).1.isOk then n :: s.2 else s.2)) (w, [])

lemma replay_concat {W E : Type} (accept : W → U64 → Except E Unit × W) (w : W) (calls : List U64) (n : U64) :
    replay accept w (calls ++ [n]) = ((accept (replay accept w calls).1 n).2,
      if (accept (replay accept w calls).1 n).1.isOk then n :: (replay accept w calls).2
      else (replay accept w calls).2) := by
  rw [replay, List.foldl_append]
  rfl

def Highest (past : List U64) (h : U64) : Prop := h ∈ past ∧ ∀ m ∈ past, m.val ≤ h.val

/-- The call with sequence `n` is answered as it should be by a window that has accepted `past`. -/
structure Exact {W E : Type} (accept : W → U64 → Except E Unit × W) (stale replayed : E) (w : W)
    (past : List U64) (n : U64) : Prop where
  ok : (accept w n).1 = .ok () ↔ n ∉ past ∧ (past = [] ∨ ∃ h, Highest past h ∧ (n.val : ℤ) > h.val - 64)
  stale : (accept w n).1 = .error stale ↔ ∃ h, Highest past h ∧ (h.val : ℤ) - n.val ≥ 64
  replayed : (accept w n).1 = .error replayed ↔ n ∈ past ∧ ∃ h, Highest past h ∧ (h.val : ℤ) - n.val < 64
  unchanged : (accept w n).1 ≠ .ok () → (accept w n).2 = w

/-! ### The bitmap -/

lemma and_bit_ne_zero (x : BitVec 64) {i : ℕ} (hi : i < 64) :
    x &&& (1#64 <<< i) ≠ 0 ↔ x.getLsbD i = true := by
  have hne : BitVec.twoPow 64 i ≠ 0 := fun h => by
    have hbit := congrArg (·.getLsbD i) h
    simp [hi] at hbit
  rw [← BitVec.twoPow_eq, BitVec.and_twoPow]
  split_ifs with h
  · exact iff_of_true hne h
  · exact iff_of_false (fun h0 => h0 rfl) h

lemma getLsbD_or_bit (x : BitVec 64) {i j : ℕ} (hi : i < 64) :
    (x ||| 1#64 <<< i).getLsbD j = true ↔ x.getLsbD j = true ∨ j = i := by
  rw [← BitVec.twoPow_eq, BitVec.getLsbD_or, BitVec.getLsbD_twoPow, eq_comm (a := j)]
  simp only [hi, decide_true, Bool.true_and, Bool.or_eq_true, decide_eq_true_eq]

lemma getLsbD_shift (x : BitVec 64) {i d : ℕ} (hi : i < 64) :
    (x <<< d ||| 1#64).getLsbD i = true ↔ i = 0 ∨ d ≤ i ∧ x.getLsbD (i - d) = true := by
  simp only [BitVec.getLsbD_or, BitVec.getLsbD_shiftLeft, BitVec.getLsbD_one, hi, decide_true, Bool.true_and,
    Bool.or_eq_true, Bool.and_eq_true, Bool.not_eq_true', decide_eq_false_iff_not, not_lt, Nat.ofNat_pos,
    decide_eq_true_eq]
  rw [or_comm]

/-- Bit `i` of a bitmap below `h` is set for the accepted sequence that lies `i` below `h`. -/
def Marks (bitmap : BitVec 64) (h : U64) (past : List U64) : Prop :=
  ∀ i < 64, bitmap.getLsbD i = true ↔ ∃ m ∈ past, m.val + i = h.val

inductive Tracks : ReplayWindow → List U64 → Prop
  | fresh {bitmap : BitVec 64} : Tracks ⟨none, bitmap⟩ []
  | window {h : U64} {bitmap : BitVec 64} {past : List U64} :
      Highest past h → Marks bitmap h past → Tracks ⟨some h, bitmap⟩ past

variable {past : List U64} {h n : U64} {bitmap : BitVec 64}

lemma Highest.exists_iff (hh : Highest past h) {P : U64 → Prop} : (∃ h', Highest past h' ∧ P h') ↔ P h := by
  constructor
  · rintro ⟨h', hh', hP⟩
    rwa [Unsigned.ext (le_antisymm (hh.2 _ hh'.1) (hh'.2 _ hh.1)) (x := h') (y := h)] at hP
  · exact fun hP => ⟨h, hh, hP⟩

lemma Marks.raise (hh : Highest past h) (hmarks : Marks bitmap h past) (hlt : h.val < n.val) :
    Marks (if replayWindow ≤ n.val - h.val then 1#64 else bitmap <<< (n.val - h.val) ||| 1#64) n
      (n :: past) := by
  intro i hi
  have hzero : i = 0 ↔ n.val + i = n.val := by omega
  simp only [List.mem_cons, exists_eq_or_imp, ← hzero]
  unfold replayWindow
  split_ifs with hfar
  · -- Everything accepted before is out of the window.
    have hold : ¬ ∃ m ∈ past, m.val + i = n.val := by
      rintro ⟨m, hm, heq⟩
      have := hh.2 m hm
      omega
    simp [BitVec.getLsbD_one, hold]
  · rw [getLsbD_shift _ hi]
    refine or_congr_right ⟨?_, ?_⟩
    · rintro ⟨hle, hbit⟩
      obtain ⟨m, hm, heq⟩ := (hmarks _ (by omega)).1 hbit
      exact ⟨m, hm, by omega⟩
    · rintro ⟨m, hm, heq⟩
      have := hh.2 m hm
      exact ⟨by omega, (hmarks _ (by omega)).2 ⟨m, hm, by omega⟩⟩

lemma Marks.fill (hmarks : Marks bitmap h past) (hle : n.val ≤ h.val) (hnear : h.val - n.val < 64) :
    Marks (bitmap ||| 1#64 <<< (h.val - n.val)) h (n :: past) := by
  intro i hi
  have hnew : n.val + i = h.val ↔ i = h.val - n.val := by omega
  simp only [getLsbD_or_bit _ hnear, hmarks i hi, List.mem_cons, exists_eq_or_imp, hnew]
  exact or_comm

lemma Marks.and_bit_ne_zero (hmarks : Marks bitmap h past) (hle : n.val ≤ h.val) (hnear : h.val - n.val < 64) :
    bitmap &&& 1#64 <<< (h.val - n.val) ≠ 0 ↔ n ∈ past := by
  rw [Replay.and_bit_ne_zero _ hnear, hmarks _ hnear]
  constructor
  · rintro ⟨m, hm, heq⟩
    rwa [← Unsigned.ext (by omega : m.val = n.val)]
  · exact fun hn => ⟨n, hn, by omega⟩

/-! ### One call -/

/-- The answer to `n` when `h` is the highest sequence that was accepted. -/
def verdict (past : List U64) (h n : U64) : Except SessionError Unit :=
  if n.val + 64 ≤ h.val then .error .staleSequence
  else if n ∈ past then .error .replayDetected
  else .ok ()

lemma Highest.exact (hh : Highest past h) {w : ReplayWindow} (hanswer : (w.accept n).1 = verdict past h n)
    (hkept : (w.accept n).1 ≠ .ok () → (w.accept n).2 = w) :
    Exact ReplayWindow.accept .staleSequence .replayDetected w past n := by
  have hne : past ≠ [] := List.ne_nil_of_mem hh.1
  refine ⟨?_, ?_, ?_, hkept⟩ <;> rw [hanswer, hh.exists_iff, verdict] <;> by_cases hn : n ∈ past <;>
    split_ifs <;> simp [hne, hn] <;> omega

lemma Tracks.accept {w : ReplayWindow} (hw : Tracks w past) (n : U64) :
    Exact ReplayWindow.accept .staleSequence .replayDetected w past n ∧
      ((w.accept n).1 = .ok () → Tracks (w.accept n).2 (n :: past)) := by
  cases hw with
  | fresh =>
    have hnone : ∀ h, ¬ Highest [] h := fun h hh => by cases hh.1
    refine ⟨?_, fun _ => .window ⟨List.mem_cons_self, by simp⟩ fun i hi => ?_⟩
    · constructor <;> simp [ReplayWindow.accept, hnone]
    · simp [BitVec.getLsbD_one]
  | @window h bitmap _ hh hmarks =>
    by_cases hlt : h.val < n.val
    · have hnew : n ∉ past := fun hn => absurd (hh.2 n hn) (by omega)
      have haccept : ReplayWindow.accept ⟨some h, bitmap⟩ n = (.ok (), ⟨some n, _⟩) := if_pos hlt
      refine ⟨hh.exact ?_ ?_, fun _ => ?_⟩ <;> rw [haccept]
      · exact ((if_neg (by omega)).trans (if_neg hnew)).symm
      · exact fun hne => absurd rfl hne
      · refine .window ⟨List.mem_cons_self, fun m hm => ?_⟩ (hmarks.raise hh hlt)
        obtain rfl | hm := List.mem_cons.1 hm
        · exact le_rfl
        · exact (hh.2 m hm).trans hlt.le
    by_cases hfar : 64 ≤ h.val - n.val
    · have haccept : ReplayWindow.accept ⟨some h, bitmap⟩ n = (.error .staleSequence, ⟨some h, bitmap⟩) :=
        (if_neg hlt).trans (if_pos hfar)
      refine ⟨hh.exact ?_ fun _ => ?_, ?_⟩ <;> rw [haccept]
      · rw [verdict, if_pos (by omega)]
      · exact nofun
    have hbit := hmarks.and_bit_ne_zero (n := n) (by omega) (by omega)
    by_cases hn : n ∈ past
    · have haccept : ReplayWindow.accept ⟨some h, bitmap⟩ n = (.error .replayDetected, ⟨some h, bitmap⟩) :=
        (if_neg hlt).trans ((if_neg hfar).trans (if_pos (hbit.2 hn)))
      refine ⟨hh.exact ?_ fun _ => ?_, ?_⟩ <;> rw [haccept]
      · rw [verdict, if_neg (by omega), if_pos hn]
      · exact nofun
    · have haccept : ReplayWindow.accept ⟨some h, bitmap⟩ n = (.ok (), ⟨some h, _⟩) :=
        (if_neg hlt).trans ((if_neg hfar).trans (if_neg (mt hbit.1 hn)))
      refine ⟨hh.exact ?_ ?_, fun _ => ?_⟩ <;> rw [haccept]
      · rw [verdict, if_neg (by omega), if_neg hn]
      · exact fun hne => absurd rfl hne
      · refine .window ⟨List.mem_cons_of_mem _ hh.1, fun m hm => ?_⟩ (hmarks.fill (by omega) (by omega))
        obtain rfl | hm := List.mem_cons.1 hm
        · exact not_lt.1 hlt
        · exact hh.2 m hm

/-! ### The window of the envelope crate -/

def CryptoWindow.toWindow : ReplayWindow :=
  ⟨if w.highest.val = 0 then none else some w.highest, w.bitmap⟩

/-- The same error, as the envelope crate words it. -/
def SessionError.describe (sequence : U64) : SessionError → CryptoError
  | .staleSequence => .staleSequence sequence
  | .replayDetected => .replayDetected sequence

lemma CryptoWindow.toWindow_injective {w w' : CryptoWindow} (h : w.toWindow = w'.toWindow) : w = w' := by
  obtain ⟨highest, bitmap⟩ := w
  obtain ⟨highest', bitmap'⟩ := w'
  simp only [toWindow, ReplayWindow.mk.injEq] at h
  obtain ⟨hhigh, rfl⟩ := h
  split_ifs at hhigh with h0 h0'
  · rw [Unsigned.ext (h0.trans h0'.symm)]
  · rw [Option.some.inj hhigh]

lemma CryptoWindow.accept_eq (hn : n.val ≠ 0) :
    (w.accept n).1 = (w.toWindow.accept n).1.mapError (SessionError.describe n) ∧
      (w.accept n).2.toWindow = (w.toWindow.accept n).2 := by
  obtain ⟨highest, bitmap⟩ := w
  by_cases hfresh : highest.val = 0
  · simp [CryptoWindow.accept, ReplayWindow.accept, toWindow, hn, hfresh, Except.mapError]
  · simp only [CryptoWindow.accept, ReplayWindow.accept, toWindow, if_neg hn, if_neg hfresh, replayWindow]
    split_ifs <;> simp_all [Except.mapError, SessionError.describe]

lemma mapError_describe {x : Except SessionError Unit} :
    (x.mapError (SessionError.describe n) = .ok () ↔ x = .ok ()) ∧
      (x.mapError (SessionError.describe n) = .error (.staleSequence n) ↔ x = .error .staleSequence) ∧
      (x.mapError (SessionError.describe n) = .error (.replayDetected n) ↔ x = .error .replayDetected) := by
  rcases x with (_ | _) | _ <;> simp [Except.mapError, SessionError.describe]

lemma Exact.describe {w : CryptoWindow} (hn : n.val ≠ 0)
    (h : Exact ReplayWindow.accept .staleSequence .replayDetected w.toWindow past n) :
    Exact CryptoWindow.accept (.staleSequence n) (.replayDetected n) w past n := by
  obtain ⟨hanswer, hnext⟩ := w.accept_eq hn
  obtain ⟨hok, hstale, hreplayed⟩ := mapError_describe (n := n) (x := (w.toWindow.accept n).1)
  refine ⟨?_, ?_, ?_, fun hfail => CryptoWindow.toWindow_injective ?_⟩
  · rw [hanswer, hok, h.ok]
  · rw [hanswer, hstale, h.stale]
  · rw [hanswer, hreplayed, h.replayed]
  · rw [hanswer, Ne, hok] at hfail
    rw [hnext, h.unchanged hfail]

/-! ### All calls -/

variable (calls : List U64)

lemma tracks_replay :
    Tracks (replay ReplayWindow.accept .default calls).1 (replay ReplayWindow.accept .default calls).2 := by
  induction calls using List.reverseRecOn with
  | nil => exact .fresh
  | append_singleton calls n ih =>
    obtain ⟨hexact, hnext⟩ := ih.accept n
    rw [replay_concat]
    cases hanswer : ((replay ReplayWindow.accept .default calls).1.accept n).1 with
    | ok u => exact hnext hanswer
    | error e =>
      rw [hexact.unchanged (by rw [hanswer]; exact nofun)]
      exact ih

lemma replay_crypto :
    (replay CryptoWindow.accept .new calls).1.toWindow =
        (replay ReplayWindow.accept .default (calls.filter (·.val ≠ 0))).1 ∧
      (replay CryptoWindow.accept .new calls).2 =
        (replay ReplayWindow.accept .default (calls.filter (·.val ≠ 0))).2 := by
  induction calls using List.reverseRecOn with
  | nil => exact ⟨rfl, rfl⟩
  | append_singleton calls n ih =>
    rw [replay_concat, List.filter_append]
    by_cases hn : n.val = 0
    · have haccept : ∀ w : CryptoWindow, w.accept n = (.error (.invalidSequence n), w) := fun w => if_pos hn
      rw [haccept, List.filter_cons_of_neg (by simpa using hn), List.filter_nil, List.append_nil]
      exact ih
    · obtain ⟨hanswer, hnext⟩ := (replay CryptoWindow.accept .new calls).1.accept_eq hn
      rw [List.filter_cons_of_pos (by simpa using hn), List.filter_nil, replay_concat, ← ih.1, ← ih.2, hnext,
        hanswer]
      cases ((replay CryptoWindow.accept .new calls).1.toWindow.accept n).1 <;> exact ⟨rfl, rfl⟩

/-- **Replay windows accept exactly once.** After any calls both windows answer the next one as they
should, and they agree on the sequences other than 0. -/
theorem replay_windows_exact (n : U64) :
    let session := replay ReplayWindow.accept .default calls
    let crypto := replay CryptoWindow.accept .new calls
    let nonzero := replay ReplayWindow.accept .default (calls.filter (·.val ≠ 0))
    Exact ReplayWindow.accept .staleSequence .replayDetected session.1 session.2 n ∧
      (n.val ≠ 0 → Exact CryptoWindow.accept (.staleSequence n) (.replayDetected n) crypto.1 crypto.2 n ∧
        crypto.2 = nonzero.2 ∧
        (crypto.1.accept n).1 = (nonzero.1.accept n).1.mapError (SessionError.describe n)) := by
  obtain ⟨hwindow, hpast⟩ := replay_crypto calls
  refine ⟨((tracks_replay calls).accept n).1, fun hn => ⟨Exact.describe hn ?_, hpast, ?_⟩⟩
  · rw [hwindow, hpast]
    exact ((tracks_replay _).accept n).1
  · rw [← hwindow]
    exact (CryptoWindow.accept_eq _ hn).1

end PrivateExecution.Replay
