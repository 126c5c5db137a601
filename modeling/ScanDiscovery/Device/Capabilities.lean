import ScanDiscovery.Device.Source
/-!
# Device.Capabilities — what is known of a scanner

Each kind of source has one slot. The names of the sources are a list of its own, which `rebuildNames` brings up
to date with the slots.
-/
namespace ScanDiscovery.Device

/-- The vendor or the model of a scanner that does not say. -/
def unknownName : String := "Unknown"

structure Capabilities where
  vendor : Option String
  model : Option String
  protocol : Option String
  units : UInt32
  flatbed : Option Source
  adfSimplex : Option Source
  adfDuplex : Option Source
  names : List String
  deriving DecidableEq

namespace Capabilities

/-- Nothing is known. -/
def empty : Capabilities := ⟨none, none, none, 0, none, none, none, []⟩

instance : EmptyCollection Capabilities := ⟨empty⟩

def source? (c : Capabilities) : SourceKind → Option Source
  | .flatbed => c.flatbed
  | .adfSimplex => c.adfSimplex
  | .adfDuplex => c.adfDuplex

/-- Fills or empties a slot. -/
def replace (c : Capabilities) (kind : SourceKind) (source : Option Source) : Capabilities :=
  match kind with
  | .flatbed => { c with flatbed := source }
  | .adfSimplex => { c with adfSimplex := source }
  | .adfDuplex => { c with adfDuplex := source }

/-- Fills a slot, if it is empty. -/
def insert (c : Capabilities) (kind : SourceKind) (source : Source) : Capabilities :=
  if (c.source? kind).isSome then c else c.replace kind (some source)

/-- The sources there are, in order. -/
def sources (c : Capabilities) : List (SourceKind × Source) :=
  SourceKind.all.filterMap fun kind => (c.source? kind).map (kind, ·)

/-- Changes every source there is. -/
def mapSources (c : Capabilities) (f : Source → Source) : Capabilities :=
  { c with flatbed := c.flatbed.map f, adfSimplex := c.adfSimplex.map f, adfDuplex := c.adfDuplex.map f }

def updateWindows (c : Capabilities) (units : UInt32) : Capabilities :=
  c.mapSources (·.updateWindows units)

/-- The names of the sources there are, in order. -/
def sourceNames (c : Capabilities) : List String :=
  c.sources.map (·.1.name)

/-- Lists the names of the sources anew. -/
def rebuildNames (c : Capabilities) : Capabilities :=
  { c with names := c.sourceNames }

@[simp] theorem source?_replace_self (c : Capabilities) (kind : SourceKind) (source : Option Source) :
    (c.replace kind source).source? kind = source := by
  cases kind <;> rfl

theorem source?_replace_of_ne (c : Capabilities) {kind other : SourceKind} (source : Option Source)
    (h : other ≠ kind) : (c.replace kind source).source? other = c.source? other := by
  cases kind <;> cases other <;> first | rfl | exact absurd rfl h

@[simp] theorem source?_mapSources (c : Capabilities) (f : Source → Source) (kind : SourceKind) :
    (c.mapSources f).source? kind = (c.source? kind).map f := by
  cases kind <;> rfl

@[simp] theorem source?_rebuildNames (c : Capabilities) (kind : SourceKind) :
    c.rebuildNames.source? kind = c.source? kind := by
  cases kind <;> rfl

/-- The first source to come for a slot stays. -/
theorem source?_insert_self (c : Capabilities) (kind : SourceKind) (source : Source) :
    (c.insert kind source).source? kind = some ((c.source? kind).getD source) := by
  unfold insert
  cases h : c.source? kind <;> simp [h]

end Capabilities
end ScanDiscovery.Device
