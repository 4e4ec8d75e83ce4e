import DeclLang.Proofs.Source.Occurrence

/-!
# Stopping at the first error

A scan that may stop reads as one that may not, up to the first faulty item, and reports nothing
behind it: the item itself is the last thing that it takes from the text, newlines in it included.
Where there is no faulty item, the two scans are one and the same.
-/

set_option autoImplicit false

namespace DeclLang

/-- The settings with the given answer to whether scanning stops. -/
def Settings.stopping (settings : Settings) (stop : Bool) : Settings :=
  { settings with stopOnFirstError := stop }

namespace Source

/-- Whether scanning stops has no influence on any single item. -/
theorem scanItem_stopping (settings : Settings) (stop : Bool) :
    scanItem (settings.stopping stop) = scanItem settings :=
  rfl

/-- A segmentation and what is left of it when it is cut behind its first fault, if it has one. -/
inductive CutAtFault : Segmentation → Segmentation → Prop where
  | faultless {whole : Segmentation} :
      (∀ s ∈ whole.segments, s.finding.isFault = false) → CutAtFault whole whole
  | atFault {front back : List Segment} {bad : Segment} {last : List Char} :
      (∀ s ∈ front, s.finding.isFault = false) → bad.finding.isFault = true →
      CutAtFault ⟨front ++ bad :: back, last⟩ ⟨front ++ [bad], []⟩

theorem forall_mem_cons_isFault {head : Segment} {segments : List Segment}
    (hhead : head.finding.isFault = false) (h : ∀ s ∈ segments, s.finding.isFault = false) :
    ∀ s ∈ head :: segments, s.finding.isFault = false := by
  intro s hs
  rcases List.mem_cons.mp hs with rfl | hs
  · exact hhead
  · exact h s hs

theorem CutAtFault.cons {whole part : Segmentation} {head : Segment}
    (hhead : head.finding.isFault = false) (h : CutAtFault whole part) :
    CutAtFault (whole.cons head) (part.cons head) := by
  cases h with
  | faultless htokens => exact .faultless (forall_mem_cons_isFault hhead htokens)
  | atFault hfront hbad => exact .atFault (forall_mem_cons_isFault hhead hfront) hbad

/-- Scanning that may stop cuts a text into the same segments, up to the first fault. -/
theorem cutAtFault_segment (settings : Settings) (text : List Char) :
    CutAtFault (segment (settings.stopping false) text)
      (segment (settings.stopping true) text) := by
  induction text using segment_induction settings with
  | last text gap hs =>
    rw [segment_of_splitGap_nil hs, segment_of_splitGap_nil hs]
    exact .faultless (by simp)
  | item text gap first rest hs ih =>
    have hgo : ∀ finding, ¬ endsReading (settings.stopping false) finding = true := by
      simp [endsReading, Settings.stopping]
    have hends : ∀ finding, endsReading (settings.stopping true) finding = finding.isFault := by
      simp [endsReading, Settings.stopping]
    rw [segment_of_splitGap_cons hs, segment_of_splitGap_cons hs, if_neg (hgo _), hends,
      scanItem_stopping, scanItem_stopping]
    cases hfault : (scanItem settings first rest).finding.isFault with
    | true => exact @CutAtFault.atFault [] _ _ _ (by simp) hfault
    | false => exact ih.cons hfault

variable {settings : Settings} {text before consumed : List Char} {items : List Occurrence}

/-- Items begin one behind the other. -/
theorem Reads.starts (h : Reads settings text before items consumed) :
    (∀ o ∈ items, before.length ≤ o.before.length) ∧
      items.Pairwise (fun o p => o.before.length < p.before.length) := by
  induction h with
  | done _ _ => exact ⟨by simp, .nil⟩
  | @stop before gap o _ hbefore _ _ =>
    refine ⟨?_, List.pairwise_singleton _ o⟩
    intro p hp
    obtain rfl := List.mem_singleton.mp hp
    rw [hbefore, List.length_append]
    omega
  | @more before gap consumed o items _ hbefore ho _ _ ih =>
    obtain ⟨hitems, hpairwise⟩ := ih
    have hne := List.length_pos_iff.mpr ho.item_ne_nil
    have hlength := congrArg List.length hbefore
    rw [List.length_append] at hlength
    have hbehind : ∀ p ∈ items, o.before.length < p.before.length := by
      intro p hp
      have hle := hitems p hp
      rw [List.length_append] at hle
      omega
    refine ⟨?_, .cons hbehind hpairwise⟩
    intro p hp
    rcases List.mem_cons.mp hp with rfl | hp
    · omega
    · have hlt := hbehind p hp
      omega

/-- The items in front of one of them are those that begin before it. -/
theorem filter_of_starts {front back : List Occurrence} {o : Occurrence}
    (h : (front ++ o :: back).Pairwise (fun o p => o.before.length < p.before.length)) :
    (front ++ o :: back).filter (fun p => p.before.length < o.before.length) = front := by
  obtain ⟨_, hback, hfront⟩ := List.pairwise_append.mp h
  have hkeep : front.filter (fun p => p.before.length < o.before.length) = front := by
    apply List.filter_eq_self.mpr
    intro p hp
    exact decide_eq_true (hfront p hp o List.mem_cons_self)
  have hdrop : (o :: back).filter (fun p => p.before.length < o.before.length) = [] := by
    apply List.filter_eq_nil_iff.mpr
    intro p hp
    rcases List.mem_cons.mp hp with rfl | hp
    · simp
    · have hlt := List.rel_of_pairwise_cons hback hp
      simp only [decide_eq_true_eq]
      omega
  rw [List.filter_append, hkeep, hdrop, List.append_nil]

theorem diagnostic?_of_not_isFault {o : Occurrence} (h : o.finding.isFault = false) :
    o.diagnostic? = none := by
  rw [Occurrence.diagnostic?]
  cases hf : o.finding with
  | token kind => rfl
  | fault fault =>
    rw [hf] at h
    cases h

theorem token?_of_isFault {o : Occurrence} (h : o.finding.isFault = true) : o.token? = none := by
  rw [Occurrence.token?]
  cases hf : o.finding with
  | token kind =>
    rw [hf] at h
    cases h
  | fault fault => rfl

theorem filterMap_diagnostic?_eq_nil (h : ∀ o ∈ items, o.finding.isFault = false) :
    items.filterMap Occurrence.diagnostic? = [] := by
  apply List.filterMap_eq_nil_iff.mpr
  exact fun o ho => diagnostic?_of_not_isFault (h o ho)

/-- Items laid out from segments are faulty as the segments are. -/
theorem isFault_of_locate {place : Place} {segments : List Segment}
    (hlocate : locate place segments = items.map Occurrence.located)
    (h : ∀ s ∈ segments, s.finding.isFault = false) : ∀ o ∈ items, o.finding.isFault = false := by
  intro o ho
  have hmem : o.finding ∈ (items.map Occurrence.located).map Located.finding := by
    rw [List.map_map]
    exact List.mem_map_of_mem ho
  rw [← hlocate, map_finding_locate] at hmem
  obtain ⟨s, hs, hfinding⟩ := List.mem_map.mp hmem
  rw [← hfinding]
  exact h s hs

/-- Where items are laid out from segments, a segment is one of the items in its place. -/
theorem exists_occurrence_of_locate {front back : List Segment} {bad : Segment}
    (hlocate : locate .start (front ++ bad :: back) = items.map Occurrence.located) :
    ∃ done o later, items = done ++ o :: later ∧
      locate .start front = done.map Occurrence.located ∧ o.finding = bad.finding ∧
      locate .start (front ++ [bad]) = (done ++ [o]).map Occurrence.located ∧
      Place.start.advance ((front ++ [bad]).flatMap Segment.text) =
        Place.start.advance (o.before ++ o.item) := by
  rw [locate_append] at hlocate
  obtain ⟨done, more, rfl, hdone, hmore⟩ := List.map_eq_append_iff.mp hlocate.symm
  obtain ⟨o, later, rfl, ho, _⟩ := List.map_eq_cons_iff.mp hmore
  have hplace : Place.start.advance o.before = _ := congrArg Located.place ho
  have hitem : o.item = bad.item := congrArg Located.item ho
  refine ⟨done, o, later, rfl, hdone.symm, congrArg Located.finding ho, ?_, ?_⟩
  · rw [locate_append, hdone.symm, List.map_append, List.map_singleton, ho]
    rfl
  · rw [Place.advance_append, hplace, hitem]
    simp [Segment.text]

/-- The reports of a scan that ends with its first error. -/
theorem toScan_atFault {done : List Occurrence} {o : Occurrence} {error : Diagnostic}
    {segments : List Segment}
    (hlocate : locate .start segments = (done ++ [o]).map Occurrence.located)
    (hplace : Place.start.advance (segments.flatMap Segment.text) =
      Place.start.advance (o.before ++ o.item))
    (hdone : ∀ p ∈ done, p.finding.isFault = false) (hbad : o.finding.isFault = true)
    (herror : o.diagnostic? = some error) :
    (Segmentation.mk segments []).toScan.errors = [error] ∧
      (Segmentation.mk segments []).toScan.tokens = done.filterMap Occurrence.token? ++
        [.endAt (1 + (o.before ++ o.item).count '\n' : Nat)] := by
  obtain ⟨htokens, herrors⟩ := toScan_of_locate (s := ⟨segments, []⟩) hlocate
  constructor
  · rw [herrors, List.filterMap_append, filterMap_diagnostic?_eq_nil hdone]
    simp [herror]
  · rw [htokens, Segmentation.text, List.append_nil, hplace, List.filterMap_append]
    simp [token?_of_isFault hbad, Place.advance, Place.start]

/-- Stopping at the first error cuts a scan off there. Without an error the two scans are equal.
Otherwise the scan that stops has the first error alone, and of the tokens those that begin before
the item with that error; it closes on the line where this item ends. -/
theorem scan_stopping (settings : Settings) (source : String) :
    let full := scan (settings.stopping false) source
    let stopped := scan (settings.stopping true) source
    ∃ items, Reads (settings.stopping false) source.toList [] items source.toList ∧
      full.tokens = items.filterMap Occurrence.token? ++
        [.endAt (1 + source.toList.count '\n' : Nat)] ∧
      full.errors = items.filterMap Occurrence.diagnostic? ∧
      (full.errors = [] → stopped = full) ∧
      ∀ error more, full.errors = error :: more → ∃ o ∈ items, o.diagnostic? = some error ∧
        (∀ p ∈ items, p.finding.isFault = true → o.before.length ≤ p.before.length) ∧
        stopped.errors = [error] ∧
        stopped.tokens =
          (items.filter fun p => p.before.length < o.before.length).filterMap Occurrence.token? ++
            [.endAt (1 + (o.before ++ o.item).count '\n' : Nat)] := by
  intro full stopped
  have htext : (segment (settings.stopping false) source.toList).text = source.toList :=
    text_segment rfl source.toList
  have hcut := cutAtFault_segment settings source.toList
  obtain ⟨items, hreads, hlocate⟩ :=
    exists_reads_segment (settings.stopping false) (List.nil_append source.toList)
  obtain ⟨htokens, herrors⟩ := toScan_of_locate hlocate
  rw [List.nil_append, htext] at hreads
  rw [htext] at htokens
  refine ⟨items, hreads, htokens, herrors, ?_⟩
  have hfull : full = (segment (settings.stopping false) source.toList).toScan := rfl
  have hstopped : stopped = (segment (settings.stopping true) source.toList).toScan := rfl
  rw [← hfull] at herrors
  rw [Place.advance_nil] at hlocate
  generalize segment (settings.stopping false) source.toList = whole at hcut hlocate hfull
  generalize segment (settings.stopping true) source.toList = part at hcut hstopped
  cases hcut with
  | faultless htoken =>
    have hnone : full.errors = [] := by
      rw [herrors]
      exact filterMap_diagnostic?_eq_nil (isFault_of_locate hlocate htoken)
    refine ⟨fun _ => hstopped.trans hfull.symm, ?_⟩
    intro error more herror
    rw [hnone] at herror
    cases herror
  | @atFault front back bad last hfront hbad =>
    obtain ⟨done, o, later, rfl, hdone, hfinding, hlast, hplace⟩ :=
      exists_occurrence_of_locate hlocate
    rw [← hfinding] at hbad
    have hfine := isFault_of_locate hdone hfront
    obtain ⟨d, hd⟩ := exists_diagnostic?_of_isFault hbad
    rw [List.filterMap_append, filterMap_diagnostic?_eq_nil hfine, List.nil_append,
      List.filterMap_cons_some hd] at herrors
    constructor
    · intro hnone
      rw [hnone] at herrors
      cases herrors
    · intro error more herror
      obtain ⟨rfl, _⟩ := List.cons.inj (herror.symm.trans herrors)
      obtain ⟨hstop, htoken⟩ := toScan_atFault hlast hplace hfine hbad hd
      rw [← hstopped] at hstop htoken
      refine ⟨o, by simp, hd, ?_, hstop, ?_⟩
      · intro p hp hfault
        rcases List.mem_append.mp hp with hp | hp
        · rw [hfine p hp] at hfault
          cases hfault
        · rcases List.mem_cons.mp hp with rfl | hp
          · exact Nat.le_refl _
          · have hbehind := (List.pairwise_append.mp hreads.starts.2).2.1
            exact Nat.le_of_lt (List.rel_of_pairwise_cons hbehind hp)
      · rw [filter_of_starts hreads.starts.2]
        exact htoken

end Source

end DeclLang
