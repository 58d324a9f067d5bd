import DemuxUsb.Library.Places
import DemuxUsb.Protocol.ArtifactNames

/-!
# The history of downloads

What a DFU expert has of images is a function of the requests it was given: each request
that ends a download ends the data since the one before it, and `ended` lists these data in
order. The images are those that are not empty (`downloads_run`).

* `images_reassembled`: the images are the pieces of the sequence of requests between its
  ends;
* `named_as_ended_iff`: an image is named as what it is, complete or partial, unless a
  download was aborted.
-/

namespace DemuxUsb.DFUInterfaceExpert

open Places

/-! ## Requests -/

/-- A control request as an expert takes it. -/
inductive Request where
  | controlOut (setup : UsbSetup) (data : Bytes)
  | controlIn (setup : UsbSetup) (data : Bytes)
  deriving DecidableEq

/-- What ends a download. -/
inductive DownloadEnd where
  | completed
  | aborted
  deriving DecidableEq

/-- A class request with the code `request`. -/
def IsClass (setup : UsbSetup) (request : UInt8) : Prop :=
  setup.bmRequestType &&& usbTypeMask = usbTypeClass ∧ setup.bRequest = request

instance (setup : UsbSetup) (request : UInt8) : Decidable (IsClass setup request) :=
  inferInstanceAs (Decidable (_ ∧ _))

namespace Request

/-- The data of a DFU_DNLOAD, unless its wLength is zero. -/
def download : Request → Bytes
  | controlOut setup data => if IsClass setup dfuDnload ∧ setup.wLength ≠ 0 then data else []
  | controlIn _ _ => []

/-- A DFU_DNLOAD with wLength zero, or a DFU_ABORT. -/
def ends : Request → Option DownloadEnd
  | controlOut setup _ =>
    if IsClass setup dfuDnload ∧ setup.wLength = 0 then some .completed
    else if IsClass setup dfuAbort then some .aborted
    else none
  | controlIn _ _ => none

def isEnd (r : Request) : Bool := r.ends.isSome

variable {setup : UsbSetup}

theorem not_abort_of_dnload (h : IsClass setup dfuDnload) : ¬ IsClass setup dfuAbort := by
  intro habort
  exact absurd (h.2.symm.trans habort.2) (by decide)

theorem ends_of_abort (h : IsClass setup dfuAbort) (data : Bytes) :
    (controlOut setup data).ends = some .aborted := by
  rw [ends, if_neg (fun hr => not_abort_of_dnload hr.1 h), if_pos h]

theorem ends_eq_none (hdnload : ¬ (IsClass setup dfuDnload ∧ setup.wLength = 0))
    (habort : ¬ IsClass setup dfuAbort) (data : Bytes) : (controlOut setup data).ends = none := by
  rw [ends, if_neg hdnload, if_neg habort]

theorem download_eq_nil (h : ¬ IsClass setup dfuDnload) (data : Bytes) :
    (controlOut setup data).download = [] := if_neg (fun hr => h hr.1)

end Request

/-- A new expert, with the transfer size of its configuration. -/
def new (configuration interface : UInt8) (transferSize : UInt16) : DFUInterfaceExpert :=
  { configuration := configuration, interface := interface, transferSize := transferSize }

/-- The expert after one request. -/
def request (e : DFUInterfaceExpert) : Request → DFUInterfaceExpert
  | .controlOut setup data => e.processControlOut setup data
  | .controlIn setup data => e.processControlIn setup data

/-- The expert after a sequence of requests. -/
def run (e : DFUInterfaceExpert) (requests : List Request) : DFUInterfaceExpert :=
  requests.foldl request e

/-! ## One request -/

/-- Two experts that have the same of images. -/
structure SameImages (e e' : DFUInterfaceExpert) : Prop where
  images : e'.images = e.images
  currentImage : e'.currentImage = e.currentImage

theorem sameImages_ite {c : Prop} [Decidable c] {e e₁ e₂ : DFUInterfaceExpert}
    (h₁ : SameImages e e₁) (h₂ : SameImages e e₂) : SameImages e (if c then e₁ else e₂) := by
  split
  · exact h₁
  · exact h₂

/-- What a request does to the images. -/
structure Downloads (e : DFUInterfaceExpert) (r : Request) (e' : DFUInterfaceExpert) : Prop where
  images : e'.images = e.images ++
    if r.ends ≠ none ∧ e.currentImage ≠ [] then [e.currentImage] else []
  currentImage : e'.currentImage = if r.ends = none then e.currentImage ++ r.download else []

theorem Downloads.of_same {e e' : DFUInterfaceExpert} {r : Request} (hends : r.ends = none)
    (hdownload : r.download = []) (h : SameImages e e') : Downloads e r e' where
  images := by rw [h.images, if_neg (fun hr => hr.1 hends), List.append_nil]
  currentImage := by rw [h.currentImage, if_pos hends, hdownload, List.append_nil]

/-- The current image is over, if there is one. -/
theorem Downloads.of_end {e e₁ e₂ : DFUInterfaceExpert} {r : Request} (hends : r.ends ≠ none)
    (h₁ : SameImages e e₁) (h₂ : SameImages e e₂) :
    Downloads e r (if e₁.currentImage ≠ [] then e₂.pushImage else e₁) := by
  rw [h₁.currentImage]
  by_cases hcurrent : e.currentImage = []
  · rw [if_neg (not_not.mpr hcurrent)]
    constructor
    · rw [h₁.images, if_neg (fun hr => hr.2 hcurrent), List.append_nil]
    · rw [h₁.currentImage, if_neg hends, hcurrent]
  · rw [if_pos hcurrent]
    constructor
    · rw [if_pos ⟨hends, hcurrent⟩, ← h₂.images, ← h₂.currentImage]
      rfl
    · exact (if_neg hends).symm

theorem downloads_processControlIn (e : DFUInterfaceExpert) (setup : UsbSetup) (data : Bytes) :
    Downloads e (.controlIn setup data) (e.processControlIn setup data) := by
  refine .of_same rfl rfl ?_
  unfold processControlIn
  dsimp only
  apply sameImages_ite
  · exact ⟨rfl, rfl⟩
  apply sameImages_ite
  · apply sameImages_ite
    · exact ⟨rfl, rfl⟩
    · exact ⟨rfl, rfl⟩
  apply sameImages_ite
  · apply sameImages_ite
    · exact ⟨rfl, rfl⟩
    · exact ⟨rfl, rfl⟩
  apply sameImages_ite
  · exact ⟨rfl, rfl⟩
  · exact ⟨rfl, rfl⟩

/-- Data are put behind the current image. -/
theorem Downloads.of_data {e e' : DFUInterfaceExpert} {setup : UsbSetup} {data : Bytes}
    (hdnload : IsClass setup dfuDnload) (hlength : ¬ setup.wLength = 0) (h : SameImages e e') :
    Downloads e (.controlOut setup data)
      { e' with currentImage := e'.currentImage ++ data } := by
  have hends : Request.ends (.controlOut setup data) = none :=
    Request.ends_eq_none (fun hr => hlength hr.2) (Request.not_abort_of_dnload hdnload) data
  have hdownload : Request.download (.controlOut setup data) = data := if_pos ⟨hdnload, hlength⟩
  constructor
  · rw [if_neg (fun hr => hr.1 hends), List.append_nil]
    exact h.images
  · rw [if_pos hends, hdownload, ← h.currentImage]

theorem downloads_processControlOut (e : DFUInterfaceExpert) (setup : UsbSetup) (data : Bytes) :
    Downloads e (.controlOut setup data) (e.processControlOut setup data) := by
  unfold processControlOut
  dsimp only
  by_cases hclass : setup.bmRequestType &&& usbTypeMask = usbTypeClass
  swap
  · have hrequest : ∀ request, ¬ IsClass setup request := fun _ h => hclass h.1
    rw [if_pos hclass]
    exact .of_same (Request.ends_eq_none (fun h => hrequest _ h.1) (hrequest _) data)
      (Request.download_eq_nil (hrequest _) data) ⟨rfl, rfl⟩
  rw [if_neg (not_not.mpr hclass)]
  -- what is counted and reported before the switch does not matter
  have hcounted : SameImages e
      (if data.length ≠ setup.wLength.toNat then
        (countRequest { e with
            toInterfaceExpert := e.toInterfaceExpert.processControlOut setup data }
          setup.bRequest).anomaly
          s!"{requestName setup.bRequest} carried {data.length} bytes but wLength was {setup.wLength.toNat}"
      else
        countRequest { e with
            toInterfaceExpert := e.toInterfaceExpert.processControlOut setup data }
          setup.bRequest) := sameImages_ite ⟨rfl, rfl⟩ ⟨rfl, rfl⟩
  revert hcounted
  generalize (if data.length ≠ setup.wLength.toNat then _ else _ : DFUInterfaceExpert) = counted
  intro hcounted
  by_cases hdnload : setup.bRequest = dfuDnload
  · rw [if_pos hdnload]
    by_cases hlength : setup.wLength = 0
    · have hends : Request.ends (.controlOut setup data) = some .completed :=
        if_pos ⟨⟨hclass, hdnload⟩, hlength⟩
      rw [if_pos hlength]
      exact .of_end (by rw [hends]; exact Option.some_ne_none _) hcounted hcounted
    · rw [if_neg hlength]
      apply Downloads.of_data ⟨hclass, hdnload⟩ hlength
      exact sameImages_ite ⟨hcounted.1, hcounted.2⟩ hcounted
  rw [if_neg hdnload]
  have hnotdnload : ¬ IsClass setup dfuDnload := fun h => hdnload h.2
  by_cases habort : setup.bRequest = dfuAbort
  · have hends : Request.ends (.controlOut setup data) = some .aborted :=
      Request.ends_of_abort ⟨hclass, habort⟩ data
    rw [if_pos habort]
    exact .of_end (by rw [hends]; exact Option.some_ne_none _) hcounted ⟨hcounted.1, hcounted.2⟩
  · rw [if_neg habort]
    exact .of_same (Request.ends_eq_none (fun h => hnotdnload h.1) (fun h => habort h.2) data)
      (Request.download_eq_nil hnotdnload data)
      (sameImages_ite hcounted ⟨hcounted.1, hcounted.2⟩)

/-- **Step lemma.** -/
theorem downloads_request (e : DFUInterfaceExpert) (r : Request) : Downloads e r (e.request r) := by
  cases r with
  | controlOut setup data => exact downloads_processControlOut e setup data
  | controlIn setup data => exact downloads_processControlIn e setup data

/-! ## Sequences of requests -/

/-- The data that no request has ended. -/
def inFlight (requests : List Request) : Bytes :=
  (requests.rtakeWhile (fun r => !r.isEnd)).flatMap Request.download

/-- The data that the request at a place ends, and how. -/
def endedAt (p : Place Request) : Option (Bytes × DownloadEnd) :=
  p.item.ends.map (inFlight p.before, ·)

/-- The data that requests have ended, in order. -/
def finished (requests : List Request) : List (Bytes × DownloadEnd) :=
  (places requests).filterMap endedAt

theorem inFlight_concat (requests : List Request) (r : Request) :
    inFlight (requests ++ [r]) =
      if r.ends = none then inFlight requests ++ r.download else [] := by
  unfold inFlight
  rw [List.rtakeWhile_concat]
  split
  · next hnot =>
    have hends : r.ends = none := by simpa [Request.isEnd] using hnot
    rw [if_pos hends, List.flatMap_append, List.flatMap_singleton]
  · next hend =>
    have hends : r.ends ≠ none := by simpa [Request.isEnd] using hend
    rw [if_neg hends]
    rfl

theorem finished_concat (requests : List Request) (r : Request) :
    finished (requests ++ [r]) = finished requests ++ (r.ends.map (inFlight requests, ·)).toList :=
  filterMap_places_concat (fun _ _ => rfl) requests r

/-- **Run lemma.** -/
theorem downloads_run (configuration interface : UInt8) (transferSize : UInt16)
    (requests : List Request) :
    ((new configuration interface transferSize).run requests).images =
        ((finished requests).map Prod.fst).filter (· ≠ []) ∧
      ((new configuration interface transferSize).run requests).currentImage =
        inFlight requests := by
  induction requests using List.reverseRecOn with
  | nil => exact ⟨rfl, rfl⟩
  | append_singleton requests r ih =>
    obtain ⟨himages, hcurrent⟩ := ih
    have hstep := downloads_request ((new configuration interface transferSize).run requests) r
    have hrun : (new configuration interface transferSize).run (requests ++ [r]) =
        ((new configuration interface transferSize).run requests).request r := List.foldl_concat _ _ _ _
    rw [hrun, hstep.images, hstep.currentImage, himages, hcurrent, finished_concat,
      inFlight_concat]
    refine ⟨?_, rfl⟩
    rw [List.map_append, List.filter_append]
    congr 1
    cases hends : r.ends with
    | none => simp
    | some how =>
      by_cases hempty : inFlight requests = []
      · simp [hempty]
      · simp [hempty]

/-! ## Images -/

/-- The pieces of a sequence of requests are what its requests end, and what is in flight. -/
theorem pieces_eq (requests : List Request) :
    (requests.splitOnP Request.isEnd).map (·.flatMap Request.download) =
      (finished requests).map Prod.fst ++ [inFlight requests] := by
  have hplace : ∀ p : Place Request,
      (ended Request.isEnd p).map (·.flatMap Request.download) = (endedAt p).map Prod.fst := by
    intro p
    unfold ended endedAt Request.isEnd
    cases p.item.ends with
    | none => rfl
    | some how => rfl
  rw [splitOnP_eq_places, List.map_append, List.map_filterMap, finished, List.map_filterMap,
    funext hplace]
  rfl

theorem getImages_eq (e : DFUInterfaceExpert) :
    e.getImages = e.images ++ [e.currentImage].filter (· ≠ []) := by
  unfold getImages
  by_cases h : e.currentImage = []
  · simp [h]
  · simp [h]

theorem getImages_run (configuration interface : UInt8) (transferSize : UInt16)
    (requests : List Request) :
    ((new configuration interface transferSize).run requests).getImages =
      ((requests.splitOnP Request.isEnd).map (·.flatMap Request.download)).filter (· ≠ []) := by
  obtain ⟨himages, hcurrent⟩ := downloads_run configuration interface transferSize requests
  rw [getImages_eq, himages, hcurrent, ← List.filter_append, pieces_eq]

theorem download_of_ends {r : Request} (h : r.ends ≠ none) : r.download = [] := by
  cases r with
  | controlIn setup data => rfl
  | controlOut setup data =>
    rw [Request.ends] at h
    rw [Request.download]
    by_cases hdnload : IsClass setup dfuDnload
    · have hlength : setup.wLength = 0 := by
        by_contra hlength
        have hnotabort : ¬ IsClass setup dfuAbort := by
          intro habort
          exact absurd (hdnload.2.symm.trans habort.2) (by decide)
        rw [if_neg (fun h => hlength h.2), if_neg hnotabort] at h
        exact h rfl
      rw [if_neg (fun h => h.2 hlength)]
    · rw [if_neg (fun h => hdnload h.1)]

/-- A separator takes nothing away. -/
theorem flatten_pieces (requests : List Request) :
    ((requests.splitOnP Request.isEnd).map (·.flatMap Request.download)).flatten =
      requests.flatMap Request.download := by
  rw [pieces_eq]
  induction requests using List.reverseRecOn with
  | nil => rfl
  | append_singleton requests r ih =>
    rw [List.flatMap_append, List.flatMap_singleton, ← ih, finished_concat, inFlight_concat]
    cases hends : r.ends with
    | none => simp
    | some how =>
      have hdownload : r.download = [] := download_of_ends (by rw [hends]; exact Option.some_ne_none _)
      simp [hdownload]

theorem flatten_filter_ne_nil (pieces : List Bytes) :
    (pieces.filter (· ≠ [])).flatten = pieces.flatten := by
  induction pieces with
  | nil => rfl
  | cons piece pieces ih =>
    cases piece with
    | nil => simpa using ih
    | cons b piece => simpa using ih

theorem getImages_of_other {e e' : DFUInterfaceExpert} {r : Request} (h : Downloads e r e')
    (hdownload : r.download = []) (hends : r.ends = none) : e'.getImages = e.getImages := by
  rw [getImages_eq, getImages_eq, h.images, h.currentImage, if_neg (fun hr => hr.1 hends),
    if_pos hends, hdownload, List.append_nil, List.append_nil]

/-- **Images.** The images are the pieces between the requests that end a download, so they
are, one after the other, all that was downloaded. -/
theorem images_reassembled (configuration interface : UInt8) (transferSize : UInt16)
    (requests : List Request) :
    let e := (new configuration interface transferSize).run requests
    e.getImages =
        ((requests.splitOnP Request.isEnd).map (·.flatMap Request.download)).filter (· ≠ []) ∧
      e.getImages.flatten = requests.flatMap Request.download ∧
      (∀ image ∈ e.getImages, image ≠ []) ∧
      ∀ r : Request, r.download = [] → r.ends = none → (e.request r).getImages = e.getImages := by
  have himages := getImages_run configuration interface transferSize requests
  refine ⟨himages, ?_, ?_, ?_⟩
  · rw [himages, flatten_filter_ne_nil, flatten_pieces]
  · intro image himage
    rw [himages] at himage
    simpa using (List.mem_filter.mp himage).2
  · intro r
    exact getImages_of_other (downloads_request _ r)

/-! ## Names -/

/-- The name has the suffix of a partial image. -/
def NamedPartial (name : String) : Prop := ∃ front, name = front ++ "-partial.bin"

theorem namedPartial_dfuPartialImage (i : Nat) :
    NamedPartial (ArtifactName.dfuPartialImage i).text := ⟨"dfu-image-" ++ i.repr, rfl⟩

/-- A digit stands where the suffix has an l. -/
theorem not_namedPartial_dfuImage (i : Nat) : ¬ NamedPartial (ArtifactName.dfuImage i).text := by
  rintro ⟨front, hfront⟩
  have hname : (ArtifactName.dfuImage i).text = "dfu-image-" ++ i.repr ++ ".bin" := rfl
  have hsuffix : "-partial.bin" = "-partia" ++ "l" ++ ".bin" := rfl
  have hl : "l".toList = ['l'] := rfl
  rw [hname, hsuffix] at hfront
  have hchars := congrArg String.toList hfront
  rw [String.toList_append, String.toList_append, String.toList_append, String.toList_append,
    String.toList_append, Nat.toList_repr, hl, ← List.append_assoc, ← List.append_assoc] at hchars
  have hlast := List.append_cancel_right hchars
  rcases List.eq_nil_or_concat (Nat.toDigits 10 i) with hnil | ⟨digits, c, hdigits⟩
  · exact Nat.toDigits_ne_nil hnil
  · rw [hdigits, List.concat_eq_append, ← List.append_assoc] at hlast
    have hc : c = 'l' := List.singleton_inj.mp (List.append_inj' hlast rfl).2
    have hmem : c ∈ Nat.toDigits 10 i := by
      rw [hdigits, List.concat_eq_append]
      exact List.mem_concat_self
    obtain ⟨d, hd, hdigit⟩ := Numerals.mem_toDigits (by decide) hmem
    have hall : ∀ d : Fin 10, Nat.digitChar d ≠ 'l' := by decide
    exact hall ⟨d, hd⟩ (hdigit.symm.trans hc)

theorem getElem_getArtifacts (e : DFUInterfaceExpert) (i : Nat) :
    e.getArtifacts[i]? = e.getImages[i]?.map fun image => ⟨e.imageName i, image⟩ := by
  unfold getArtifacts
  rw [List.getElem?_map, List.getElem?_zipIdx, Option.map_map]
  cases e.getImages[i]? with
  | none => rfl
  | some image =>
    rw [Option.map_some, Option.map_some]
    simp

/-- The downloads that were not empty, in order, and what ended each. -/
def downloads (requests : List Request) : List (Bytes × Option DownloadEnd) :=
  ((finished requests).map (Prod.map id some) ++ [(inFlight requests, none)]).filter
    (·.1 ≠ [])

/-- The images are named as what they are. -/
structure NamedAsEnded (e : DFUInterfaceExpert) (requests : List Request) : Prop where
  /-- An image without the suffix is the download at its place, which was completed. -/
  complete : ∀ (i : Nat) (artifact : ExtractedArtifact), e.getArtifacts[i]? = some artifact →
    ¬ NamedPartial artifact.name →
      (downloads requests)[i]? = some (artifact.data, some .completed)
  /-- A download that was aborted, or is in flight, is an image with the suffix. -/
  incomplete : ∀ (i : Nat) (data : Bytes) (how : Option DownloadEnd),
    (downloads requests)[i]? = some (data, how) → how ≠ some .completed →
      ∃ artifact, e.getArtifacts[i]? = some artifact ∧ artifact.data = data ∧
        NamedPartial artifact.name

/-- A DFU_ABORT that takes data away is nowhere in the sequence. -/
def NeverAborts (requests : List Request) : Prop :=
  ∀ before r after, requests = before ++ r :: after → r.ends = some .aborted →
    inFlight before = []

theorem mem_finished {requests : List Request} {data : Bytes} {how : DownloadEnd} :
    (data, how) ∈ finished requests ↔ ∃ before r after, requests = before ++ r :: after ∧
      r.ends = some how ∧ inFlight before = data := by
  unfold finished
  rw [List.mem_filterMap]
  constructor
  · rintro ⟨p, hp, hended⟩
    obtain ⟨how', hends, heq⟩ := Option.map_eq_some_iff.mp hended
    obtain ⟨hdata, rfl⟩ := Prod.mk.inj heq
    exact ⟨p.before, p.item, p.after, mem_places.mp hp, hends, hdata⟩
  · rintro ⟨before, r, after, hrequests, hends, rfl⟩
    refine ⟨⟨before, r, after⟩, mem_places.mpr hrequests, ?_⟩
    rw [endedAt, hends]
    rfl

theorem neverAborts_iff {requests : List Request} :
    NeverAborts requests ↔ ∀ data, (data, DownloadEnd.aborted) ∈ finished requests → data = [] := by
  constructor
  · intro hnever data hdata
    obtain ⟨before, r, after, hrequests, hends, rfl⟩ := mem_finished.mp hdata
    exact hnever before r after hrequests hends
  · intro hempty before r after hrequests hends
    exact hempty _ (mem_finished.mpr ⟨before, r, after, hrequests, hends, rfl⟩)

section Named

variable {configuration interface : UInt8} {transferSize : UInt16} {requests : List Request}

/-- The images that are over come first, and then the one in flight. -/
theorem downloads_eq : downloads requests =
    ((finished requests).filter (·.1 ≠ [])).map (Prod.map id some) ++
      [(inFlight requests, none)].filter (·.1 ≠ []) := by
  unfold downloads
  rw [List.filter_append, List.filter_map]
  rfl

theorem length_images :
    ((new configuration interface transferSize).run requests).images.length =
      ((finished requests).filter (·.1 ≠ [])).length := by
  rw [(downloads_run configuration interface transferSize requests).1, List.filter_map,
    List.length_map]
  rfl

theorem map_fst_downloads :
    (downloads requests).map Prod.fst =
      ((new configuration interface transferSize).run requests).getImages := by
  obtain ⟨himages, hcurrent⟩ := downloads_run configuration interface transferSize requests
  have hfirst : (finished requests).map Prod.fst ++ [inFlight requests] =
      ((finished requests).map (Prod.map id some) ++
        [(inFlight requests, (none : Option DownloadEnd))]).map Prod.fst := by
    rw [List.map_append, List.map_map]
    rfl
  rw [getImages_eq, himages, hcurrent, ← List.filter_append, hfirst, List.filter_map]
  rfl

/-- The image at a place, the name it has, and the download it is. -/
theorem artifact_of_download {i : Nat} {data : Bytes} {how : Option DownloadEnd}
    (h : (downloads requests)[i]? = some (data, how)) :
    ((new configuration interface transferSize).run requests).getArtifacts[i]? =
      some ⟨((new configuration interface transferSize).run requests).imageName i, data⟩ := by
  rw [getElem_getArtifacts, ← map_fst_downloads, List.getElem?_map, h]
  rfl

/-- A download that something ended, and its place. -/
theorem ended_of_download {i : Nat} {data : Bytes} {how : DownloadEnd}
    (h : (downloads requests)[i]? = some (data, some how)) :
    i < ((finished requests).filter (·.1 ≠ [])).length ∧ (data, how) ∈ finished requests ∧
      data ≠ [] := by
  rw [downloads_eq] at h
  have hlt : i < ((finished requests).filter (·.1 ≠ [])).length := by
    by_contra hle
    rw [List.getElem?_append_right (by rw [List.length_map]; omega)] at h
    have hmem := (List.mem_filter.mp (List.mem_of_getElem? h)).1
    cases List.mem_singleton.mp hmem
  rw [List.getElem?_append_left (by rwa [List.length_map])] at h
  obtain ⟨d, hd, hmap⟩ := List.mem_map.mp (List.mem_of_getElem? h)
  obtain ⟨hfinished, hne⟩ := List.mem_filter.mp hd
  obtain ⟨rfl, hhow⟩ := Prod.mk.inj hmap
  obtain rfl := Option.some.inj hhow
  exact ⟨hlt, hfinished, by simpa using hne⟩

/-- It is an image without the suffix. -/
theorem not_namedPartial_of_ended {i : Nat} {data : Bytes} {how : DownloadEnd}
    (h : (downloads requests)[i]? = some (data, some how)) :
    ¬ NamedPartial (((new configuration interface transferSize).run requests).imageName i) := by
  obtain ⟨hlt, -, -⟩ := ended_of_download h
  rw [imageName_of_lt (by rwa [length_images])]
  exact not_namedPartial_dfuImage i

/-- The download in flight is an image with the suffix. -/
theorem namedPartial_of_inFlight {i : Nat} {data : Bytes}
    (h : (downloads requests)[i]? = some (data, none)) :
    NamedPartial (((new configuration interface transferSize).run requests).imageName i) := by
  rw [downloads_eq] at h
  have hle : ((finished requests).filter (·.1 ≠ [])).length ≤ i := by
    by_contra hlt
    rw [List.getElem?_append_left (by rw [List.length_map]; omega)] at h
    obtain ⟨d, -, hmap⟩ := List.mem_map.mp (List.mem_of_getElem? h)
    cases (Prod.mk.inj hmap).2
  rw [List.getElem?_append_right (by rwa [List.length_map]), List.length_map] at h
  -- the last image
  have hlast : i - ((finished requests).filter (·.1 ≠ [])).length = 0 := by
    have hlt := (List.getElem?_eq_some_iff.mp h).1
    have hone := List.length_filter_le (fun d : Bytes × Option DownloadEnd => d.1 ≠ [])
      [(inFlight requests, none)]
    rw [List.length_singleton] at hone
    omega
  have hi : i = ((new configuration interface transferSize).run requests).images.length := by
    rw [length_images]
    omega
  rw [hi, imageName_length]
  exact namedPartial_dfuPartialImage _

end Named

/-- **Partial images.** Every image is named as what it is exactly when no DFU_ABORT takes
data away: the data of an aborted download are named as a complete image. -/
theorem named_as_ended_iff (configuration interface : UInt8) (transferSize : UInt16)
    (requests : List Request) :
    NamedAsEnded ((new configuration interface transferSize).run requests) requests ↔
      NeverAborts requests := by
  rw [neverAborts_iff]
  constructor
  · intro hnamed data haborted
    by_contra hne
    have hmem : (data, some DownloadEnd.aborted) ∈ downloads requests := by
      rw [downloads_eq, List.mem_append]
      exact Or.inl (List.mem_map.mpr
        ⟨_, List.mem_filter.mpr ⟨haborted, decide_eq_true hne⟩, rfl⟩)
    obtain ⟨i, hi⟩ := List.mem_iff_getElem?.mp hmem
    obtain ⟨artifact, hartifact, -, hpartial⟩ := hnamed.incomplete i _ _ hi (by simp)
    rw [artifact_of_download hi] at hartifact
    obtain rfl := Option.some.inj hartifact
    exact not_namedPartial_of_ended hi hpartial
  · intro hempty
    constructor
    · intro i artifact hartifact hname
      have himage : ∃ d, (downloads requests)[i]? = some d := by
        rw [getElem_getArtifacts, ← map_fst_downloads, List.getElem?_map] at hartifact
        cases hd : (downloads requests)[i]? with
        | none => rw [hd] at hartifact; cases hartifact
        | some d => exact ⟨d, rfl⟩
      obtain ⟨⟨data, how⟩, hd⟩ := himage
      rw [artifact_of_download hd] at hartifact
      obtain rfl := Option.some.inj hartifact
      cases how with
      | none => exact absurd (namedPartial_of_inFlight hd) hname
      | some how =>
        cases how with
        | completed => exact hd
        | aborted =>
          obtain ⟨-, hfinished, hne⟩ := ended_of_download hd
          exact absurd (hempty data hfinished) hne
    · intro i data how hd hhow
      refine ⟨_, artifact_of_download hd, rfl, ?_⟩
      cases how with
      | none => exact namedPartial_of_inFlight hd
      | some how =>
        cases how with
        | completed => exact absurd rfl hhow
        | aborted =>
          obtain ⟨-, hfinished, hne⟩ := ended_of_download hd
          exact absurd (hempty data hfinished) hne

/-- Two bytes are downloaded, and the download is aborted. -/
def abortedRequests : List Request :=
  [.controlOut ⟨0x21, dfuDnload, 0, 0, 2⟩ [1, 2], .controlOut ⟨0x21, dfuAbort, 0, 0, 0⟩ []]

theorem not_named_as_ended :
    ¬ ∀ (configuration interface : UInt8) (transferSize : UInt16) (requests : List Request),
      NamedAsEnded ((new configuration interface transferSize).run requests) requests := by
  intro hall
  obtain ⟨artifact, hartifact, -, hpartial⟩ :=
    (hall 1 0 2048 abortedRequests).incomplete 0 [1, 2] (some .aborted) rfl (by decide)
  have hname : ((new 1 0 2048).run abortedRequests).getArtifacts[0]? =
      some ⟨(ArtifactName.dfuImage 0).text, [1, 2]⟩ := rfl
  rw [hname] at hartifact
  obtain rfl := Option.some.inj hartifact
  exact not_namedPartial_dfuImage 0 hpartial

end DemuxUsb.DFUInterfaceExpert
