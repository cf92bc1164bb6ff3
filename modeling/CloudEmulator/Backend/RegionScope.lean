/-!
# Accounts and regions

Where the instances of a service live, and which region the dispatcher uses.
-/

namespace CloudEmulator

/-- The account of requests that name no other. -/
def defaultAccount : String := "123456789012"

/-- The region of partition-wide instances. -/
def globalRegion : String := "global"

/-- The region that services are served from when they list it. -/
def homeRegion : String := "us-east-1"

/-- The regions of a service. -/
inductive RegionScope where
  | regional (regions : List String)
  /-- One partition-wide instance per account. -/
  | everywhere
  deriving DecidableEq, Repr

namespace RegionScope

/-- Instances may live in the region. The global region belongs to every scope,
as the one that services without the home region fall back to. -/
def contains : RegionScope → String → Bool
  | regional regions, region => region == globalRegion || regions.contains region
  | everywhere, region => region == globalRegion

/-- The region the dispatcher uses. -/
def preferred (scope : RegionScope) : String :=
  if scope.contains homeRegion then homeRegion else globalRegion

end RegionScope

end CloudEmulator
