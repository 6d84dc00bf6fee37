import Nanortc.Spec.SctpLinks

/-!
# Polling the receive table

`nsctp_poll_delivery` goes through the table and hands out the first message whose turn it is: an
ordered message carries the SSN that its stream expects, or was skipped by the sender. When every
stream of the table is known and gathering ends without an error, a poll either hands out such a
message or finds none. Messages that wait share no fragment, so one that is handed out leaves the
others as they are.

## Key results

- `nsctpPollSlots_spec`: what a poll of the table does
- `nsctpStream_grow`, `deliveredStreams_expected`: what becomes of the streams
- `Complete.eq_of_mem`: messages that wait share no fragment
-/

namespace Nanortc.Spec

open Nanortc.ForStd Nanortc.Native

variable {r : SctpRecv} {held : Holding} {streams : List SctpStream}

/-! ### Polling the table -/

/-- The index of a stream that the table knows. -/
def streamIndex (streams : List SctpStream) (sid : UInt16) : Option Nat :=
  streams.findIdx? (·.id == sid)

/-- The next SSN expected on a stream. -/
def expectedSsn (streams : List SctpStream) (sid : UInt16) : Option UInt16 :=
  (streamIndex streams sid).map fun k => (streams.getD k default).recvSsn

/-- A message of the descriptor waits for its turn on the stream. -/
def RxEntry.inOrder (e : RxEntry) : Bool := !hasFlag e.flags sctpDataFlagUnordered && !e.forwarded

/-- The streams after the message of a descriptor was handed out. -/
def deliveredStreams (streams : List SctpStream) (e : RxEntry) : List SctpStream :=
  match streamIndex streams e.streamId with
  | none => streams
  | some k =>
    let s := streams.getD k default
    if RxEntry.inOrder e then streams.set k { s with recvSsn := s.recvSsn + 1 } else streams

/-- The message of a descriptor can be handed out. -/
structure Deliverable (r : SctpRecv) (streams : List SctpStream) (i : RxSlot)
    (parts : List RxSlot) : Prop where
  waiting : Waiting r i
  begins : hasFlag (r.rx i).flags sctpDataFlagBegin = true
  turn : RxEntry.inOrder (r.rx i) = true → expectedSsn streams (r.rx i).streamId = some (r.rx i).ssn
  first : nsctpRxEarlier r (r.rx i) = false
  gathered : nsctpGatherParts r sctpMaxRecvGap (r.rx i).tsn [] 0 = .ok (some parts)

/-- The result of handing out the message of a descriptor. -/
def handedOut (r : SctpRecv) (streams : List SctpStream) (i : RxSlot) (parts : List RxSlot) :
    SctpRecv × List SctpStream × Except Rc SctpMessage :=
  ((nsctpAssemble r parts).1, deliveredStreams streams (r.rx i),
    .ok ⟨(nsctpAssemble r parts).1.recvGapBuf.take (nsctpAssemble r parts).2, (r.rx i).ppid,
      (r.rx i).streamId⟩)

theorem nsctpStream_known {sid : UInt16} {k : Nat} (h : streamIndex streams sid = some k) :
    nsctpStream streams sid = (streams, some k) := by
  unfold streamIndex at h
  unfold nsctpStream
  rw [h]

/-- **What a poll of the table does**, when its streams are known and gathering ends without an
error: it hands out the first message that it can, or there is none. -/
theorem nsctpPollSlots_spec
    (hknown : ∀ i, Waiting r i → (streamIndex streams (r.rx i).streamId).isSome)
    (hquiet : ∀ i, Waiting r i → hasFlag (r.rx i).flags sctpDataFlagBegin = true → ∀ rc,
      nsctpGatherParts r sctpMaxRecvGap (r.rx i).tsn [] 0 ≠ .error rc) (slots : List RxSlot) :
    (nsctpPollSlots r streams slots = (r, streams, .error .wouldBlock) ∧
      ∀ i ∈ slots, ∀ parts, ¬Deliverable r streams i parts) ∨
    ∃ i ∈ slots, ∃ parts, Deliverable r streams i parts ∧
      nsctpPollSlots r streams slots = handedOut r streams i parts := by
  induction slots with
  | nil => exact .inl ⟨rfl, fun i hi => absurd hi List.not_mem_nil⟩
  | cons i slots ih =>
    -- a descriptor that cannot be handed out is passed over
    have hskip (hno : ∀ parts, ¬Deliverable r streams i parts)
        (heq : nsctpPollSlots r streams (i :: slots) = nsctpPollSlots r streams slots) :
        (nsctpPollSlots r streams (i :: slots) = (r, streams, .error .wouldBlock) ∧
          ∀ k ∈ i :: slots, ∀ parts, ¬Deliverable r streams k parts) ∨
        ∃ k ∈ i :: slots, ∃ parts, Deliverable r streams k parts ∧
          nsctpPollSlots r streams (i :: slots) = handedOut r streams k parts := by
      rw [heq]
      cases ih with
      | inl h =>
        refine .inl ⟨h.1, fun k hk => ?_⟩
        rcases List.mem_cons.mp hk with rfl | hk
        · exact hno
        · exact h.2 k hk
      | inr h =>
        obtain ⟨k, hk, h⟩ := h
        exact .inr ⟨k, List.mem_cons_of_mem i hk, h⟩
    by_cases hbegin : Waiting r i ∧ hasFlag (r.rx i).flags sctpDataFlagBegin = true
    swap
    · apply hskip fun parts h => hbegin ⟨h.waiting, h.begins⟩
      rw [nsctpPollSlots]
      dsimp only
      rw [if_pos]
      by_contra hc
      apply hbegin
      simpa [Waiting, and_assoc] using hc
    obtain ⟨hi, hbegin⟩ := hbegin
    obtain ⟨k, hk⟩ := Option.isSome_iff_exists.mp (hknown i hi)
    have hexpected : expectedSsn streams (r.rx i).streamId =
        some (streams.getD k default).recvSsn := by
      unfold expectedSsn
      rw [hk, Option.map_some]
    obtain ⟨found, hg⟩ : ∃ found, nsctpGatherParts r sctpMaxRecvGap (r.rx i).tsn [] 0 = .ok found := by
      cases hg : nsctpGatherParts r sctpMaxRecvGap (r.rx i).tsn [] 0 with
      | error rc => exact absurd hg (hquiet i hi hbegin rc)
      | ok found => exact ⟨found, rfl⟩
    have hstart : nsctpPollSlots r streams (i :: slots) =
        if RxEntry.inOrder (r.rx i) = true ∧ (r.rx i).ssn ≠ (streams.getD k default).recvSsn then
          nsctpPollSlots r streams slots
        else if nsctpRxEarlier r (r.rx i) then nsctpPollSlots r streams slots
        else found.elim (nsctpPollSlots r streams slots) (handedOut r streams i) := by
      rw [nsctpPollSlots]
      dsimp only
      rw [if_neg (by simp [hi.1, hi.2, hbegin]), nsctpStream_known hk, hg]
      dsimp only
      unfold handedOut deliveredStreams
      rw [hk]
      cases found <;> rfl
    by_cases hturn : RxEntry.inOrder (r.rx i) = true ∧
        (r.rx i).ssn ≠ (streams.getD k default).recvSsn
    · apply hskip
      · intro parts h
        have := h.turn hturn.1
        rw [hexpected] at this
        exact hturn.2 (Option.some.inj this).symm
      · rw [hstart, if_pos hturn]
    by_cases hearlier : nsctpRxEarlier r (r.rx i) = true
    · apply hskip
      · intro parts h
        have := h.first
        rw [hearlier] at this
        cases this
      · rw [hstart, if_neg hturn, if_pos hearlier]
    rw [if_neg hturn, if_neg hearlier] at hstart
    cases found with
    | none =>
      apply hskip _ hstart
      intro parts h
      have := h.gathered
      rw [hg] at this
      simp at this
    | some parts =>
      refine .inr ⟨i, List.mem_cons_self, parts, ⟨hi, hbegin, fun ho => ?_, ?_, hg⟩, hstart⟩
      · rw [hexpected]
        by_contra hne
        exact hturn ⟨ho, fun h => hne (by rw [h])⟩
      · exact Bool.eq_false_iff.mpr hearlier

/-! ### Streams -/

/-- The streams that are known stay known, with what is expected on them. -/
def StreamsGrow (streams streams' : List SctpStream) : Prop :=
  ∀ sid k, streamIndex streams sid = some k →
    streamIndex streams' sid = some k ∧ streams'.getD k default = streams.getD k default

theorem StreamsGrow.refl (streams : List SctpStream) : StreamsGrow streams streams :=
  fun _ _ h => ⟨h, rfl⟩

theorem StreamsGrow.known {streams' : List SctpStream} (h : StreamsGrow streams streams')
    {sid : UInt16} (hk : (streamIndex streams sid).isSome) : (streamIndex streams' sid).isSome := by
  obtain ⟨k, hk⟩ := Option.isSome_iff_exists.mp hk
  rw [(h sid k hk).1]
  rfl

/-- A stream is looked up or added. -/
theorem nsctpStream_grow (streams : List SctpStream) (sid : UInt16) :
    StreamsGrow streams (nsctpStream streams sid).1 ∧
    ∀ k, (nsctpStream streams sid).2 = some k →
      streamIndex (nsctpStream streams sid).1 sid = some k := by
  unfold nsctpStream
  cases hfind : streams.findIdx? (·.id == sid) with
  | some k =>
    exact ⟨.refl streams, fun k' hk => by rw [← hk]; exact hfind⟩
  | none =>
    dsimp only
    split
    · exact ⟨.refl streams, fun k hk => nomatch hk⟩
    · constructor
      · intro sid' k hk
        have hlt : k < streams.length := by
          obtain ⟨hlt, -⟩ := List.findIdx?_eq_some_iff_getElem.mp hk
          exact hlt
        refine ⟨?_, ?_⟩
        · unfold streamIndex at hk ⊢
          rw [List.findIdx?_append, hk]
          rfl
        · rw [List.getD_append _ _ _ _ hlt]
      · intro k hk
        obtain rfl := Option.some.inj hk
        unfold streamIndex
        rw [List.findIdx?_append, hfind]
        simp

/-- The streams after the admission of a chunk. -/
theorem nsctpAdmit_streams (r : SctpRecv) (streams : List SctpStream) (d : NsctpData) :
    StreamsGrow streams (nsctpAdmit r streams d).1 ∧
    ∀ slot, (nsctpAdmit r streams d).2 = .store slot →
      (streamIndex (nsctpAdmit r streams d).1 d.streamId).isSome := by
  have hgrow := nsctpStream_grow streams d.streamId
  unfold nsctpAdmit
  split
  · exact ⟨.refl _, fun _ h => nomatch h⟩
  split
  · split
    · exact ⟨.refl _, fun _ h => nomatch h⟩
    split
    · exact ⟨.refl _, fun _ h => nomatch h⟩
    split
    · rename_i hstream
      rw [hstream] at hgrow
      exact ⟨hgrow.1, fun _ h => nomatch h⟩
    · rename_i k hstream
      rw [hstream] at hgrow
      exact ⟨hgrow.1, fun _ _ => by rw [hgrow.2 k rfl]; rfl⟩
  · exact ⟨.refl _, fun _ h => nomatch h⟩

/-- A message handed out moves the expected SSN of its own stream at most. -/
theorem deliveredStreams_index (streams : List SctpStream) (e : RxEntry) (sid : UInt16) :
    streamIndex (deliveredStreams streams e) sid = streamIndex streams sid := by
  unfold deliveredStreams
  cases hk : streamIndex streams e.streamId with
  | none => rfl
  | some k =>
    dsimp only
    split
    · unfold streamIndex at hk ⊢
      obtain ⟨hlt, -⟩ := List.findIdx?_eq_some_iff_getElem.mp hk
      have hids : (streams.set k { streams.getD k default with
          recvSsn := (streams.getD k default).recvSsn + 1 }).map SctpStream.id =
          streams.map SctpStream.id := by
        apply List.ext_getElem?
        intro j
        rw [List.getElem?_map, List.getElem?_map, List.getElem?_set]
        split
        · rename_i hkj
          subst hkj
          rw [List.getD_eq_getElem _ _ hlt, List.getElem?_eq_getElem hlt]
          rfl
        · rfl
      have hmap (l : List SctpStream) :
          l.findIdx? (·.id == sid) = (l.map SctpStream.id).findIdx? (· == sid) := by
        rw [List.findIdx?_map]
        rfl
      rw [hmap, hids, ← hmap]
    · rfl

theorem deliveredStreams_expected {e : RxEntry} {sid : UInt16}
    (h : RxEntry.inOrder e = true → sid ≠ e.streamId) :
    expectedSsn (deliveredStreams streams e) sid = expectedSsn streams sid := by
  unfold expectedSsn
  rw [deliveredStreams_index]
  cases hsid : streamIndex streams sid with
  | none => rfl
  | some j =>
    rw [Option.map_some, Option.map_some]
    congr 1
    unfold deliveredStreams
    cases hk : streamIndex streams e.streamId with
    | none => rfl
    | some k =>
      dsimp only
      split
      · rename_i ho
        -- different streams have different places
        have hkj : k ≠ j := by
          rintro rfl
          unfold streamIndex at hsid hk
          obtain ⟨hlt, hid, -⟩ := List.findIdx?_eq_some_iff_getElem.mp hsid
          obtain ⟨hlt', hid', -⟩ := List.findIdx?_eq_some_iff_getElem.mp hk
          have h1 := beq_iff_eq.mp hid
          have h2 := beq_iff_eq.mp hid'
          exact h ho (h1.symm.trans h2)
        rw [List.getD_eq_getElem?_getD, List.getElem?_set_ne hkj, ← List.getD_eq_getElem?_getD]
      · rfl

/-! ### Messages that wait -/

theorem mem_inbox {d : NsctpData} : d ∈ inbox held r ↔ ∃ i, Waiting r i ∧ d ∈ held i := by
  unfold inbox
  rw [Multiset.mem_sum]
  constructor
  · rintro ⟨i, -, hd⟩
    split at hd
    · rename_i hi
      exact ⟨i, hi, Multiset.mem_coe.mp hd⟩
    · exact absurd hd (Multiset.notMem_zero d)
  · rintro ⟨i, hi, hd⟩
    refine ⟨i, Finset.mem_univ i, ?_⟩
    rw [if_pos hi]
    exact Multiset.mem_coe.mpr hd

/-- A TSN waits once. -/
theorem Orderly.unique (h : Orderly held r) {x y : NsctpData} (hx : x ∈ inbox held r)
    (hy : y ∈ inbox held r) (htsn : x.tsn = y.tsn) : x = y := by
  obtain ⟨i, hi, hxi⟩ := mem_inbox.mp hx
  obtain ⟨j, hj, hyj⟩ := mem_inbox.mp hy
  obtain rfl := h.apart i j hi hj x hxi y hyj htsn
  exact h.holds.row_inj hi hxi hyj htsn

/-- Two messages with a common fragment have the same fragments before it. -/
theorem isChain_back_eq {U : NsctpData → Prop}
    (hunique : ∀ x y, U x → U y → x.tsn = y.tsn → x = y) {a b : List NsctpData} {x : NsctpData}
    (ha : (a ++ [x]).IsChain Follows) (hb : (b ++ [x]).IsChain Follows)
    (hbegin : ∀ d ∈ (a ++ [x]).head?, hasFlag d.flags sctpDataFlagBegin = true)
    (hbegin' : ∀ d ∈ (b ++ [x]).head?, hasFlag d.flags sctpDataFlagBegin = true)
    (hUa : ∀ d ∈ a, U d) (hUb : ∀ d ∈ b, U d) : a = b := by
  induction a using List.reverseRecOn generalizing b x with
  | nil =>
    cases List.eq_nil_or_concat b with
    | inl hnil => exact hnil.symm
    | inr hconcat =>
      -- the fragment begins a message and continues another one
      obtain ⟨b, z, rfl⟩ := hconcat
      rw [List.concat_eq_append] at hb
      have hzx := (List.isChain_append.mp hb).2.2 z (by simp) x rfl
      have := hbegin x rfl
      rw [hzx.continues] at this
      exact nomatch this
  | append_singleton a z ih =>
    cases List.eq_nil_or_concat b with
    | inl hnil =>
      subst hnil
      have hzx := (List.isChain_append.mp ha).2.2 z (by simp) x rfl
      have := hbegin' x rfl
      rw [hzx.continues] at this
      exact nomatch this
    | inr hconcat =>
      obtain ⟨b, z', rfl⟩ := hconcat
      rw [List.concat_eq_append] at hb hbegin' hUb ⊢
      have hzx := (List.isChain_append.mp ha).2.2 z (by simp) x rfl
      have hzx' := (List.isChain_append.mp hb).2.2 z' (by simp) x rfl
      obtain rfl := hunique z z' (hUa z (by simp)) (hUb z' (by simp))
        ((UInt32.add_left_inj 1).mp (hzx.tsn.symm.trans hzx'.tsn))
      have hfront (l : List NsctpData) (h : ∀ d ∈ ((l ++ [z]) ++ [x]).head?,
          hasFlag d.flags sctpDataFlagBegin = true) :
          ∀ d ∈ (l ++ [z]).head?, hasFlag d.flags sctpDataFlagBegin = true := by
        intro d hd
        apply h d
        rw [List.head?_append, Option.mem_def.mp hd]
        rfl
      rw [ih (List.isChain_append.mp ha).1 (List.isChain_append.mp hb).1 (hfront a hbegin)
        (hfront b hbegin') (fun d hd => hUa d (List.mem_append_left _ hd))
        (fun d hd => hUb d (List.mem_append_left _ hd))]

/-- Two messages with a common fragment have the same fragments behind it. -/
theorem isChain_forth_eq {U : NsctpData → Prop}
    (hunique : ∀ x y, U x → U y → x.tsn = y.tsn → x = y) {a b : List NsctpData} {x : NsctpData}
    (ha : (x :: a).IsChain Follows) (hb : (x :: b).IsChain Follows)
    (hend : ∀ d ∈ (x :: a).getLast?, hasFlag d.flags sctpDataFlagEnd = true)
    (hend' : ∀ d ∈ (x :: b).getLast?, hasFlag d.flags sctpDataFlagEnd = true)
    (hUa : ∀ d ∈ a, U d) (hUb : ∀ d ∈ b, U d) : a = b := by
  induction a generalizing b x with
  | nil =>
    cases b with
    | nil => rfl
    | cons y b =>
      have := hend x rfl
      rw [(List.isChain_cons_cons.mp hb).1.unfinished] at this
      exact nomatch this
  | cons z a ih =>
    have hxz := (List.isChain_cons_cons.mp ha).1
    cases b with
    | nil =>
      have := hend' x rfl
      rw [hxz.unfinished] at this
      exact nomatch this
    | cons z' b =>
      have hxz' := (List.isChain_cons_cons.mp hb).1
      obtain rfl := hunique z z' (hUa z (by simp)) (hUb z' (by simp))
        (hxz.tsn.trans hxz'.tsn.symm)
      rw [ih ha.tail hb.tail (by simpa using hend) (by simpa using hend')
        (fun d hd => hUa d (List.mem_cons_of_mem _ hd)) fun d hd => hUb d (List.mem_cons_of_mem _ hd)]

/-- **Messages that wait share no fragment.** -/
theorem Complete.eq_of_mem {U : NsctpData → Prop}
    (hunique : ∀ x y, U x → U y → x.tsn = y.tsn → x = y) {ds es : List NsctpData}
    (hds : Complete ds) (hes : Complete es) (hUd : ∀ d ∈ ds, U d) (hUe : ∀ d ∈ es, U d)
    {x : NsctpData} (hx : x ∈ ds) (hx' : x ∈ es) : ds = es := by
  obtain ⟨a, b, rfl⟩ := List.append_of_mem hx
  obtain ⟨a', b', rfl⟩ := List.append_of_mem hx'
  have hsplit (l m : List NsctpData) (h : (l ++ x :: m).IsChain Follows) :
      (l ++ [x]).IsChain Follows ∧ (x :: m).IsChain Follows := by
    refine ⟨?_, (List.isChain_append.mp h).2.1⟩
    rw [List.append_cons] at h
    exact (List.isChain_append.mp h).1
  have hhead (l m : List NsctpData) (h : Complete (l ++ x :: m)) :
      ∀ d ∈ (l ++ [x]).head?, hasFlag d.flags sctpDataFlagBegin = true := by
    intro d hd
    apply h.begins d
    rw [List.append_cons, List.head?_append, Option.mem_def.mp hd]
    rfl
  have hlast (l m : List NsctpData) (h : Complete (l ++ x :: m)) :
      ∀ d ∈ (x :: m).getLast?, hasFlag d.flags sctpDataFlagEnd = true := by
    intro d hd
    apply h.ends d
    rw [List.getLast?_append, Option.mem_def.mp hd]
    rfl
  rw [isChain_back_eq hunique (hsplit a b hds.chain).1 (hsplit a' b' hes.chain).1 (hhead a b hds)
      (hhead a' b' hes) (fun d hd => hUd d (List.mem_append_left _ hd))
      (fun d hd => hUe d (List.mem_append_left _ hd)),
    isChain_forth_eq hunique (hsplit a b hds.chain).2 (hsplit a' b' hes.chain).2 (hlast a b hds)
      (hlast a' b' hes) (fun d hd => hUd d (List.mem_append_right _ (List.mem_cons_of_mem x hd)))
      (fun d hd => hUe d (List.mem_append_right _ (List.mem_cons_of_mem x hd)))]

end Nanortc.Spec
