import PrivateExecution.Domain.Primitives

/-!
# Circuit breakers

`ChainHealthBreaker` (`execution-relay/src/health.rs`, one entry per chain) and
`SigningFailureBreaker` (`execution-relay/src/signing_health.rs`, one entry per relay) run the same
state machine. An entry opens after a number of consecutive failures, blocks for a cooldown, and
then admits probes one at a time.
-/

namespace PrivateExecution

inductive Health where
  | healthy | degraded | unavailable
deriving DecidableEq

/-- Threshold and cooldown of a breaker, as `new` normalises them. -/
structure BreakerPolicy where
  failureThreshold : U32
  cooldownMs : I64
  threshold_pos : 1 ≤ failureThreshold.val
  cooldown_nonneg : 0 ≤ cooldownMs.val

def BreakerPolicy.new (failureThreshold : U32) (cooldownMs : I64) : BreakerPolicy where
  failureThreshold := if failureThreshold.val = 0 then (.lit 1) else failureThreshold
  cooldownMs := if cooldownMs.val < 0 then I64.zero else cooldownMs
  threshold_pos := by
    split_ifs with h
    · exact le_rfl
    · exact Nat.one_le_iff_ne_zero.2 h
  cooldown_nonneg := by
    split_ifs with h
    · exact le_rfl
    · exact not_lt.1 h

def BreakerPolicy.chainDefault : BreakerPolicy := .new (.lit 1) I64.zero

def BreakerPolicy.signingDefault : BreakerPolicy := .new (.lit 3) (.lit 30000)

structure BreakerEntry where
  consecutiveFailures : U32
  state : Health
  cooldownUntilMs : I64
  probeInFlight : Bool
deriving DecidableEq

/-- An admission guard that is not resolved yet. -/
structure ProbeGuard where
  admittedAtMs : I64
  consumedProbe : Bool

namespace BreakerEntry

def default : BreakerEntry := ⟨Unsigned.zero, .healthy, I64.zero, false⟩

variable (p : BreakerPolicy) (e : BreakerEntry)

def checkAllowed (nowMs : I64) : Bool :=
  match e.state with
  | .healthy => true
  | .degraded => !e.probeInFlight
  | .unavailable => decide (e.cooldownUntilMs ≤ nowMs) && !e.probeInFlight

def admitProbe (nowMs : I64) : Option ProbeGuard × BreakerEntry :=
  match e.state with
  | .healthy => (some ⟨nowMs, false⟩, e)
  | .degraded =>
    if e.probeInFlight then (none, e)
    else (some ⟨nowMs, true⟩, { e with probeInFlight := true })
  | .unavailable =>
    if nowMs < e.cooldownUntilMs ∨ e.probeInFlight then (none, e)
    else (some ⟨nowMs, true⟩, { e with state := .degraded, probeInFlight := true })

def recordSuccess : BreakerEntry :=
  { e with consecutiveFailures := Unsigned.zero, state := .healthy, probeInFlight := false }

def recordFailure (nowMs : I64) : BreakerEntry :=
  let failures := e.consecutiveFailures.saturatingAdd (.lit 1)
  if p.failureThreshold ≤ failures then
    ⟨failures, .unavailable, nowMs.saturatingAdd p.cooldownMs, false⟩
  else ⟨failures, .degraded, e.cooldownUntilMs, false⟩

def observe (health : Health) (nowMs : I64) : BreakerEntry :=
  match health with
  | .healthy => e
  | .degraded | .unavailable => e.recordFailure p nowMs

def dropGuard (g : ProbeGuard) : BreakerEntry :=
  if g.consumedProbe then e.recordFailure p g.admittedAtMs else e

end BreakerEntry

end PrivateExecution
