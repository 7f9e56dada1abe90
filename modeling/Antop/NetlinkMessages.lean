import Antop.NetlinkAttributes

/-!
# Datagrams of messages

`mnl_cb_run` goes through the messages that the kernel has sent, and each of them through its attributes.

* `Corto` — the length of a message is below 2^31; a longer one passes `mnl_nlmsg_ok`, which compares it as an
  `int`.
* **`mensajes_dentro_iff`** — whatever is received, `mnl_cb_run` stays in it exactly when no message that it visits
  is longer, and then `mnl_attr_parse` stays in each message.
* **`mnlCbRun_eq`** — a datagram of messages is read message by message, wherever each of them lies.
-/

namespace Antop

open Memory Chain

lemma hdr_nlmsghdr_pos : 0 < 16 := by decide

/-- How messages follow one another. -/
def nlmsghdr : Format UChar where
  hdr := 16
  size h := campoHost h 0 4
  round := mnlAlign
  hdr_pos := hdr_nlmsghdr_pos
  le_round := le_mnlAlign

lemma sizeAt_nlmsghdr (m : List UChar) (nlh : ℕ) : nlmsghdr.sizeAt m nlh = nlmsgLen m nlh := by
  change LittleEndian.value (slice (slice m nlh 16) 0 4) = nlmsgLen m nlh
  rw [slice_slice (by decide), Nat.add_zero, nlmsgLen, campoHost]

/-- The length is not negative as an `int`. -/
def Corto (m : List UChar) (nlh : ℕ) : Prop := nlmsgLen m nlh < 2 ^ 31

instance (m : List UChar) (nlh : ℕ) : Decidable (Corto m nlh) :=
  inferInstanceAs (Decidable (nlmsgLen m nlh < 2 ^ 31))

section Dentro

variable {m : List UChar} {numbytes : ℕ}

lemma toInt_nlmsgLen {nlh : ℕ} (h : Corto m nlh) :
    (BitVec.ofNat 32 (nlmsgLen m nlh)).toInt = nlmsgLen m nlh := by
  have hlt : nlmsgLen m nlh < 2 ^ 31 := h
  rw [BitVec.toInt_eq_toNat_of_lt (by rw [BitVec.toNat_ofNat]; omega), BitVec.toNat_ofNat,
    Nat.mod_eq_of_lt (by omega)]

/-- On a message that is not too long the test is the one that is meant. -/
lemma mnlNlmsgOk_iff {nlh : ℕ} (h : Corto m nlh) :
    mnlNlmsgOk m nlh (numbytes - nlh) ↔ nlmsghdr.Fits m numbytes nlh := by
  rw [mnlNlmsgOk, toInt_nlmsgLen h, Format.Fits, sizeAt_nlmsghdr]
  change _ ↔ nlh + 16 ≤ numbytes ∧ 16 ≤ nlmsgLen m nlh ∧ nlh + nlmsgLen m nlh ≤ numbytes
  omega

/-- **The step.**  Place and remaining bytes go on together. -/
lemma mnlNlmsgNext_eq {nlh : ℕ} (hnum : numbytes < 2 ^ 31) (hcorto : Corto m nlh)
    (h : nlmsghdr.Fits m numbytes nlh) :
    mnlNlmsgNext m (nlh, numbytes - nlh) = (nlmsghdr.next m nlh, (numbytes - nlmsghdr.next m nlh : ℤ)) := by
  obtain ⟨hhdr, hsize, hend⟩ := h
  rw [sizeAt_nlmsghdr] at hsize hend
  change nlh + 16 ≤ numbytes at hhdr
  have hlen : nlmsgLen m nlh < 2 ^ 31 := hcorto
  have halign : mnlAlign (nlmsgLen m nlh) < nlmsgLen m nlh + 4 := by
    unfold mnlAlign
    omega
  have hmod : mnlAlign (nlmsgLen m nlh) % 2 ^ 32 = mnlAlign (nlmsgLen m nlh) := Nat.mod_eq_of_lt (by omega)
  have hnext : nlmsghdr.next m nlh = nlh + mnlAlign (nlmsgLen m nlh) := by
    rw [Format.next, sizeAt_nlmsghdr]
    rfl
  rw [mnlNlmsgNext, mnlNlmsgGetPayloadTail, hmod, hnext]
  refine Prod.ext rfl ?_
  change ((numbytes - nlh : ℤ) - _).bmod (2 ^ 32) = _
  rw [Int.bmod_eq_of_le (by omega) (by omega)]
  omega

/-- Where no message is too long, the bytes that remain are those behind the place. -/
lemma quedan {k : ℕ} (hnum : numbytes < 2 ^ 31) (hcorto : ∀ p ∈ mensajes m k numbytes, Corto m p.1) {p : ℕ × ℤ}
    (hp : p ∈ mensajes m k numbytes) : p.2 = numbytes - p.1 := by
  rw [mensajes, ← visited_and hcorto] at hp
  refine visited_rule (P := fun p : ℕ × ℤ => p.2 = numbytes - p.1) (fun q hq hok => ?_) (by simp) hp
  obtain ⟨nlh, len⟩ := q
  obtain rfl : len = numbytes - nlh := hq
  rw [mnlNlmsgNext_eq hnum hok.2 ((mnlNlmsgOk_iff hok.2).mp hok.1)]

lemma ok_of_mem_mensajes {k : ℕ} {p : ℕ × ℤ} (hp : p ∈ mensajes m k numbytes) : mnlNlmsgOk m p.1 p.2 := by
  have hok := ok_of_mem_visited hp
  exact hok

/-- **In range.**  `mnl_cb_run` stays in what has been received, whatever it is, exactly when no message that it
visits has a length from 2^31 on.  Then the attributes that `mnl_attr_parse` visits in a message lie in it, as far as
its length rounded up, and do not overlap; the offset is below 2^31, where no difference of places passes for another
`int`. -/
theorem mensajes_dentro_iff {k : ℕ} (hnum : numbytes < 2 ^ 31) :
    ((∀ p ∈ mensajes m k numbytes, p.1 + nlmsgLen m p.1 ≤ numbytes) ↔
        ∀ p ∈ mensajes m k numbytes, nlmsgLen m p.1 < 2 ^ 31)
      ∧ ((∀ p ∈ mensajes m k numbytes, nlmsgLen m p.1 < 2 ^ 31) →
          ∀ p ∈ mensajes m k numbytes, ∀ offset < 2 ^ 31,
            (∀ attr ∈ mnlAttrForEach m (mnlNlmsgGetPayloadOffset p.1 offset) (mnlNlmsgGetPayloadTail m p.1),
                p.1 + 16 + offset ≤ attr ∧ attr + nlaLen m attr ≤ p.1 + mnlAlign (nlmsgLen m p.1))
              ∧ (mnlAttrForEach m (mnlNlmsgGetPayloadOffset p.1 offset) (mnlNlmsgGetPayloadTail m p.1)).Pairwise
                  fun attr attr' => attr + nlaLen m attr ≤ attr') := by
  refine ⟨⟨fun h p hp => ?_, fun h p hp => ?_⟩, fun h p hp offset hoff => ?_⟩
  · exact (Nat.le_add_left _ _).trans_lt ((h p hp).trans_lt hnum)
  · have hok := ok_of_mem_mensajes hp
    rw [quedan hnum h hp, mnlNlmsgOk_iff (h p hp), Format.Fits, sizeAt_nlmsghdr] at hok
    exact hok.2.2
  · have hlen := h p hp
    have hcabe : 16 ≤ nlmsgLen m p.1 := (ok_of_mem_mensajes hp).2.1
    have htail : mnlNlmsgGetPayloadTail m p.1 = p.1 + mnlAlign (nlmsgLen m p.1) := by
      have halign : mnlAlign (nlmsgLen m p.1) < 2 ^ 32 := by
        unfold mnlAlign
        omega
      rw [mnlNlmsgGetPayloadTail, Nat.mod_eq_of_lt halign]
    have hwalk : mnlAttrForEach m (mnlNlmsgGetPayloadOffset p.1 offset) (mnlNlmsgGetPayloadTail m p.1)
        = nlattr.walk m (mnlNlmsgGetPayloadTail m p.1) (mnlNlmsgGetPayloadOffset p.1 offset) := by
      refine mnlAttrForEach_eq m ?_ ?_
      · rw [htail, mnlNlmsgGetPayloadOffset, mnlAlign]
        omega
      · rw [htail, mnlNlmsgGetPayloadOffset, mnlAlign, mnlAlign]
        omega
    rw [hwalk]
    refine ⟨fun attr hattr => ?_, (Format.walk_apart _).imp fun {o o'} ho => ?_⟩
    · obtain ⟨hfrom, -, hend⟩ := Format.walk_inside hattr
      rw [sizeAt_nlattr, htail] at hend
      have hoffset := le_mnlAlign offset
      rw [mnlNlmsgGetPayloadOffset] at hfrom
      exact ⟨by omega, hend⟩
    · rwa [sizeAt_nlattr] at ho

end Dentro

/-- A message of length 2^32 - 1 passes in 20 bytes, and the next one begins where it begins. -/
theorem mensajes_dentro_negativo :
    ¬ ∀ p ∈ mensajes (List.replicate 4 255 ++ List.replicate 16 0) 20 20,
      p.1 + nlmsgLen (List.replicate 4 255 ++ List.replicate 16 0) p.1 ≤ 20 := fun h =>
  absurd ((mensajes_dentro_iff (by decide)).1.mp h) (by decide)

/-! ## Message by message -/

/-- A message with its length in its header. -/
structure Mensaje (u : List UChar) : Prop where
  cabecera : 16 ≤ u.length
  largo : nlmsgLen u 0 = u.length
  corto : u.length < 2 ^ 31

/-- Messages lie one behind another. -/
def Enviados (m : List UChar) (off : ℕ) (us : List (List UChar)) (fin : ℕ) : Prop := nlmsghdr.Laid m off us fin

lemma Mensaje.proper {u : List UChar} (h : Mensaje u) : nlmsghdr.Proper u := by
  refine ⟨h.cabecera, ?_⟩
  have hcabecera := h.cabecera
  rw [← h.largo]
  change LittleEndian.value (slice (u.take 16) 0 4) = LittleEndian.value (slice u 0 4)
  rw [slice, slice, List.drop_zero, List.drop_zero, List.take_take]
  rfl

section Lugar

variable {m u : List UChar} {nlh : ℕ}

/-- **A field of a message**, wherever the message lies. -/
lemma campoHost_lugar (hu : slice m nlh u.length = u) {i n : ℕ} (hin : i + n ≤ u.length) :
    campoHost m (nlh + i) n = campoHost u i n := by
  rw [campoHost, campoHost, ← slice_slice (n := u.length) hin, hu]

lemma nlmsgLen_lugar (hm : Mensaje u) (hu : slice m nlh u.length = u) : nlmsgLen m nlh = u.length := by
  have hcabecera := hm.cabecera
  rw [← hm.largo, nlmsgLen, nlmsgLen, ← campoHost_lugar hu (i := 0) (n := 4) (by omega), Nat.add_zero]

/-- **What is done with a message** does not depend on where it lies. -/
lemma mnlCbMensaje_lugar {σ : Type*} {seq portid : ℕ} {cbData : ℕ → σ → σ × ℤ} (hm : Mensaje u)
    (hu : slice m nlh u.length = u) (r : σ × ℤ) :
    mnlCbMensaje m seq portid cbData nlh r = mnlCbMensaje u seq portid (fun _ => cbData nlh) 0 r := by
  have hcabecera := hm.cabecera
  have htype : nlmsgType m nlh = nlmsgType u 0 := campoHost_lugar hu (by omega)
  have hseq : nlmsgSeq m nlh = nlmsgSeq u 0 := campoHost_lugar hu (by omega)
  have hpid : nlmsgPid m nlh = nlmsgPid u 0 := campoHost_lugar hu (by omega)
  have herror : mnlCbError m nlh = mnlCbError u 0 := by
    rw [mnlCbError, mnlCbError, nlmsgLen_lugar hm hu, hm.largo]
    by_cases hshort : u.length < 36
    · rw [if_pos hshort, if_pos hshort]
    · rw [campoHost_lugar hu (by omega), Nat.zero_add]
  have hportid : mnlNlmsgPortidOk m nlh portid ↔ mnlNlmsgPortidOk u 0 portid := by
    rw [mnlNlmsgPortidOk, mnlNlmsgPortidOk, hpid]
  have hseqok : mnlNlmsgSeqOk m nlh seq ↔ mnlNlmsgSeqOk u 0 seq := by
    rw [mnlNlmsgSeqOk, mnlNlmsgSeqOk, hseq]
  have hdefault : defaultCbArray m nlh = defaultCbArray u 0 := by
    rw [defaultCbArray, defaultCbArray, htype, herror]
  simp only [mnlCbMensaje, hportid, hseqok, htype, hdefault]

end Lugar

/-- Messages lie from `nlh` to the end. -/
def Restan (m : List UChar) (fin nlh : ℕ) : Prop := ∃ us, (∀ u ∈ us, Mensaje u) ∧ Enviados m nlh us fin

section Restan

variable {m : List UChar} {fin nlh : ℕ}

lemma Restan.corto (h : Restan m fin nlh) (hhdr : nlh + 16 ≤ fin) : Corto m nlh := by
  obtain ⟨us, hus, hlaid⟩ := h
  cases us with
  | nil =>
      obtain rfl : nlh = fin := hlaid
      omega
  | cons u us =>
      have hu := hus u (List.mem_cons_self ..)
      rw [Corto, nlmsgLen_lugar hu hlaid.1]
      exact hu.corto

/-- The test of the code finds each of them. -/
lemma Restan.ok_iff (h : Restan m fin nlh) : mnlNlmsgOk m nlh (fin - nlh) ↔ nlmsghdr.Fits m fin nlh := by
  by_cases hhdr : nlh + 16 ≤ fin
  · exact mnlNlmsgOk_iff (h.corto hhdr)
  · refine ⟨fun hok => absurd hok.1 (by omega), fun hfits => absurd hfits.1 hhdr⟩

lemma Restan.next (h : Restan m fin nlh) (hfits : nlmsghdr.Fits m fin nlh) :
    Restan m fin (nlmsghdr.next m nlh) := by
  obtain ⟨us, hus, hlaid⟩ := h
  cases us with
  | nil =>
      obtain rfl : nlh = fin := hlaid
      have hhdr : nlh + 16 ≤ nlh := hfits.1
      omega
  | cons u us =>
      have hu := hus u (List.mem_cons_self ..)
      refine ⟨us, fun v hv => hus v (List.mem_cons_of_mem u hv), ?_⟩
      rw [Format.next, Format.sizeAt_of_proper hu.proper hlaid.1]
      exact hlaid.2

end Restan

/-- **A datagram** of messages that lie one behind another is read message by message: a callback is called where
each of them lies, until one stops. -/
theorem mnlCbRun_eq {m : List UChar} {numbytes : ℕ} {us : List (List UChar)} (hnum : numbytes < 2 ^ 31)
    (hus : ∀ u ∈ us, Mensaje u) (h : Enviados m 0 us numbytes) :
    ∃ lugares, List.Forall₂ (fun nlh u => slice m nlh u.length = u) lugares us ∧
      ∀ {σ : Type} (seq portid : ℕ) (cbData : ℕ → σ → σ × ℤ) (s : σ),
        mnlCbRun m numbytes seq portid cbData s
          = recorrer (fun nlh r => mnlCbMensaje m seq portid cbData nlh r) lugares (s, mnlCbOk) := by
  refine ⟨_, Format.walk_of_laid (fun u hu => (hus u hu).proper) h, fun seq portid cbData s => ?_⟩
  -- behind each place lie the messages that are left
  have hmensajes : visited (fun p : ℕ × ℤ => mnlNlmsgOk m p.1 p.2) (mnlNlmsgNext m) numbytes
        ((0 : ℕ), (numbytes - (0 : ℕ) : ℤ))
      = (visited (nlmsghdr.Fits m numbytes) (nlmsghdr.next m) numbytes 0).map
          fun nlh : ℕ => (nlh, (numbytes - nlh : ℤ)) :=
    visited_map (fun nlh : ℕ => (nlh, (numbytes - nlh : ℤ))) (fun _ hrestan hfits => Restan.next hrestan hfits)
      (fun _ hrestan => Restan.ok_iff hrestan)
      (fun _ hrestan hfits => mnlNlmsgNext_eq hnum (Restan.corto hrestan hfits.1) hfits) numbytes ⟨us, hus, h⟩
  rw [Nat.cast_zero, sub_zero] at hmensajes
  rw [mnlCbRun, mensajes, hmensajes, ← recorrer_map (fun (p : ℕ × ℤ) r => mnlCbMensaje m seq portid cbData p.1 r),
    Format.visited_eq_walk (Nat.sub_le numbytes 0)]

/-- A message of the one who has been asked that has data goes to the callback. -/
lemma mnlCbMensaje_datos {σ : Type*} {m u : List UChar} {nlh seq portid : ℕ} {cbData : ℕ → σ → σ × ℤ} (hm : Mensaje u)
    (hu : slice m nlh u.length = u) (hpropio : mnlNlmsgPortidOk u 0 portid ∧ mnlNlmsgSeqOk u 0 seq)
    (htype : 16 ≤ nlmsgType u 0) (r : σ × ℤ) : mnlCbMensaje m seq portid cbData nlh r = cbData nlh r.1 := by
  rw [mnlCbMensaje_lugar hm hu, mnlCbMensaje, if_neg (not_not.mpr hpropio.1), if_neg (not_not.mpr hpropio.2),
    if_pos htype]

/-- `NLMSG_DONE` stops. -/
lemma mnlCbMensaje_done {σ : Type*} {m u : List UChar} {nlh seq portid : ℕ} {cbData : ℕ → σ → σ × ℤ} (hm : Mensaje u)
    (hu : slice m nlh u.length = u) (hpropio : mnlNlmsgPortidOk u 0 portid ∧ mnlNlmsgSeqOk u 0 seq)
    (htype : nlmsgType u 0 = 3) (r : σ × ℤ) : mnlCbMensaje m seq portid cbData nlh r = (r.1, mnlCbStop) := by
  rw [mnlCbMensaje_lugar hm hu, mnlCbMensaje, if_neg (not_not.mpr hpropio.1), if_neg (not_not.mpr hpropio.2),
    if_neg (by omega), defaultCbArray, if_neg (by omega), if_neg (by omega), if_pos htype, Option.getD_some]

end Antop
