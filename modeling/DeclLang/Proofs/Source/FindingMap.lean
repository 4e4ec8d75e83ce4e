import DeclLang.Source.Scan

/-!
# Scans that differ in what items are found to be

Settings can change what an item is found to be without changing where it ends. If they do so for
every single item, and reading ends at the same items, then two scans of a text go in step: they cut
it into the same gaps and items, and the items stand in the same places.
-/

set_option autoImplicit false

namespace DeclLang.Source

variable {f : List Char → Finding → Finding}

def Scanned.mapFinding (f : List Char → Finding → Finding) (s : Scanned) : Scanned :=
  { s with finding := f s.item s.finding }

def Segment.mapFinding (f : List Char → Finding → Finding) (s : Segment) : Segment :=
  { s with finding := f s.item s.finding }

def Segmentation.mapFinding (f : List Char → Finding → Finding) (s : Segmentation) :
    Segmentation :=
  { s with segments := s.segments.map (Segment.mapFinding f) }

def Located.mapFinding (f : List Char → Finding → Finding) (i : Located) : Located :=
  { i with finding := f i.item i.finding }

theorem segment_mapFinding {a b : Settings}
    (hitem : ∀ first rest, scanItem b first rest = (scanItem a first rest).mapFinding f)
    (hends : ∀ item finding, endsReading b (f item finding) = endsReading a finding)
    (text : List Char) : segment b text = (segment a text).mapFinding f := by
  induction text using segment_induction a with
  | last text gap hs =>
    rw [segment_of_splitGap_nil hs, segment_of_splitGap_nil hs]
    rfl
  | item text gap first rest hs ih =>
    rw [segment_of_splitGap_cons hs, segment_of_splitGap_cons hs, hitem]
    simp only [Scanned.mapFinding, hends, ih]
    split <;> rfl

/-- Settings under which all items are found to be the same, and the same ones end reading, cut
texts alike. -/
theorem segment_congr {a b : Settings} (hitem : scanItem b = scanItem a)
    (hends : endsReading b = endsReading a) (text : List Char) :
    segment b text = segment a text := by
  have hsame : ∀ s : Segmentation, s.mapFinding (fun _ finding => finding) = s := by
    intro s
    exact congrArg (Segmentation.mk · s.lastGap) (List.map_id s.segments)
  rw [segment_mapFinding (a := a) (f := fun _ finding => finding), hsame]
  · intro first rest
    rw [hitem]
    rfl
  · intro item finding
    rw [hends]

theorem text_mapFinding (s : Segmentation) : (s.mapFinding f).text = s.text := by
  rw [Segmentation.text, Segmentation.mapFinding, List.flatMap_map]
  rfl

theorem locate_mapFinding (place : Place) (segments : List Segment) :
    locate place (segments.map (Segment.mapFinding f)) =
      (locate place segments).map (Located.mapFinding f) := by
  induction segments generalizing place with
  | nil => rfl
  | cons s segments ih => exact congrArg _ (ih _)

theorem tokens_toScan_mapFinding (s : Segmentation) :
    (s.mapFinding f).toScan.tokens =
      (locate .start s.segments).filterMap (fun i => (i.mapFinding f).token?) ++
        [.endAt (Place.start.advance s.text).line] := by
  simp only [Segmentation.toScan, text_mapFinding]
  rw [Segmentation.mapFinding, locate_mapFinding, List.filterMap_map]
  rfl

theorem errors_toScan_mapFinding (s : Segmentation) :
    (s.mapFinding f).toScan.errors =
      (locate .start s.segments).filterMap fun i => (i.mapFinding f).diagnostic? := by
  simp only [Segmentation.toScan]
  rw [Segmentation.mapFinding, locate_mapFinding, List.filterMap_map]
  rfl

end DeclLang.Source
