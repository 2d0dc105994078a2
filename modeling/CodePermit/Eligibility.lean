import CodePermit.Version
/-!
# Eligibility

A technique can be switched off, and it can be confined to hosts whose version lies in a
half-open interval.  A confined technique is never tried on a host of unknown version.

* `Eligibility` — the switch and the two bounds;
* `Eligibility.permits` — whether a host of a given version qualifies.
-/

namespace CodePermit

/-- On which hosts a technique may be tried. -/
structure Eligibility where
  /-- A technique that is switched off is never tried. -/
  enabled : Bool := true
  /-- The first version that qualifies. -/
  min : Option Version := none
  /-- The first version that no longer qualifies. -/
  max : Option Version := none
deriving DecidableEq

namespace Eligibility

/-- The version lies at or above the lower bound, if there is one. -/
def reaches (e : Eligibility) (v : Version) : Bool :=
  e.min.all fun m => !v.below m

/-- The version lies below the upper bound, if there is one. -/
def precedes (e : Eligibility) (v : Version) : Bool :=
  e.max.all fun m => v.below m

/-- Whether a host qualifies; `none` is a host of unknown version. -/
def permits (e : Eligibility) (host : Option Version) : Bool :=
  e.enabled &&
    if e.min.isNone && e.max.isNone then true
    else
      match host with
      | none => false
      | some v => e.reaches v && e.precedes v

theorem permits_some (e : Eligibility) (v : Version) :
    e.permits (some v) = (e.enabled && (e.reaches v && e.precedes v)) := by
  cases e with
  | mk enabled min max => cases min <;> cases max <;> simp [permits, reaches, precedes]

end Eligibility

end CodePermit
