import Antop.NetlinkMessages

/-!
# Tables that the kernel sends

`rt_table_dump` and `get_if_addr` ask the kernel for a table in the same way: datagrams are received into one
buffer, and `mnl_cb_run` is called on each, until it returns something that is not positive.

* `mnlSocketRecvfrom`, `recibir`, `pedirTabla` — a datagram, a round of this loop, and the loop.
* `Datagrama`, `Contestan` — an answer of the kernel: messages, each about one entry, in one datagram or in several,
  and `NLMSG_DONE`.
* **`pedirTabla_eq`** — however the answer is cut into datagrams, and whatever was in the buffer, the loop ends and
  has gone through the entries of the table, in their order.
-/

namespace Antop

open Memory Chain Loop

/-- `mnl_socket_recvfrom`: the buffer and what is returned, for a datagram or an error.  One that does not fit is an
error. -/
def mnlSocketRecvfrom (buf : List UChar) : Option (List UChar) → List UChar × ℤ
  | none => (buf, -1)
  | some d => (put buf 0 d, if buf.length < d.length then -1 else d.length)

section Pedir

variable {σ α : Type}

/-- One round of the loop, from a call of `mnl_socket_recvfrom` to the next.  When the loop is left, `ret` is its
last value. -/
def recibir (seq portid : ℕ) (cbData : List UChar → ℕ → σ → σ × ℤ) (d : Option (List UChar))
    (s : List UChar × σ) : (List UChar × σ) ⊕ (σ × ℤ) :=
  let (buf, ret) := mnlSocketRecvfrom s.1 d
  if ret ≤ 0 then .inr (s.2, ret)
  else
    let r := mnlCbRun buf ret.toNat seq portid (cbData buf) s.2
    if r.2 ≤ mnlCbStop then .inr r else .inl (buf, r.1)

/-- The loop, when the kernel sends the datagrams `ds`; `none` when it waits for more. -/
def pedirTabla (seq portid : ℕ) (cbData : List UChar → ℕ → σ → σ × ℤ) (buf : List UChar)
    (ds : List (Option (List UChar))) (s : σ) : Option (σ × ℤ) :=
  (run (recibir seq portid cbData) ds (buf, s)).elim (fun _ => none) some

/-! ## What the kernel sends -/

/-- A datagram for the one who has asked, which fits in the buffer. -/
structure Datagrama (seq portid size : ℕ) (d : List UChar) (us : List (List UChar)) : Prop where
  cabe : d.length ≤ size
  enviados : Enviados d 0 us d.length
  mensajes : ∀ u ∈ us, Mensaje u
  propios : ∀ u ∈ us, mnlNlmsgPortidOk u 0 portid ∧ mnlNlmsgSeqOk u 0 seq

/-- An answer: datagrams of messages about the entries of the table, up to a message `NLMSG_DONE`. -/
inductive Contestan (seq portid size : ℕ) (Dice : List UChar → α → Prop) : List (List UChar) → List α → Prop
  | ultimo {d : List UChar} {ds us rest : List (List UChar)} {done : List UChar} {tabla : List α} :
      Datagrama seq portid size d (us ++ done :: rest) → List.Forall₂ Dice us tabla →
      nlmsgType done 0 = 3 → Contestan seq portid size Dice (d :: ds) tabla
  | otro {d : List UChar} {ds us : List (List UChar)} {tabla tabla' : List α} :
      Datagrama seq portid size d us → us ≠ [] → List.Forall₂ Dice us tabla →
      Contestan seq portid size Dice ds tabla' → Contestan seq portid size Dice (d :: ds) (tabla ++ tabla')

/-- The callback does `f` with a message that says something, wherever it lies. -/
def Hace (cbData : List UChar → ℕ → σ → σ × ℤ) (Dice : List UChar → α → Prop) (f : σ → α → σ) : Prop :=
  ∀ m nlh u a s, Mensaje u → Dice u a → slice m nlh u.length = u →
    16 ≤ nlmsgType u 0 ∧ cbData m nlh s = (f s a, mnlCbOk)

variable {seq portid : ℕ} {cbData : List UChar → ℕ → σ → σ × ℤ} {Dice : List UChar → α → Prop} {f : σ → α → σ}

/-- A datagram is in the buffer as it is. -/
lemma Datagrama.enBuffer {buf d : List UChar} {us : List (List UChar)} (h : Datagrama seq portid buf.length d us) :
    Enviados (put buf 0 d) 0 us d.length := by
  have hself : slice (put buf 0 d) 0 d.length = d := slice_put_self (by rw [Nat.zero_add]; exact h.cabe)
  simpa [Enviados] using Format.Laid.shift h.enviados hself (le_refl _)

/-- **The entries of a datagram** are gone through. -/
lemma recorrer_tabla (hf : Hace cbData Dice f) {m : List UChar} {lugares : List ℕ} {us : List (List UChar)}
    {tabla : List α} (hlugares : List.Forall₂ (fun nlh u => slice m nlh u.length = u) lugares us)
    (hmensajes : ∀ u ∈ us, Mensaje u)
    (hpropios : ∀ u ∈ us, mnlNlmsgPortidOk u 0 portid ∧ mnlNlmsgSeqOk u 0 seq)
    (hdice : List.Forall₂ Dice us tabla) (s : σ) :
    recorrer (fun nlh r => mnlCbMensaje m seq portid (cbData m) nlh r) lugares (s, mnlCbOk)
      = (tabla.foldl f s, mnlCbOk) := by
  induction hlugares generalizing tabla s with
  | nil =>
      cases hdice
      rfl
  | @cons nlh u lugares us hu _ ih =>
      cases hdice with
      | @cons _ a _ tabla ha hrest =>
          have hm := hmensajes u (List.mem_cons_self ..)
          obtain ⟨htype, hcb⟩ := hf m nlh u a s hm ha hu
          rw [recorrer_cons, mnlCbMensaje_datos hm hu (hpropios u (List.mem_cons_self ..)) htype, hcb,
            if_neg (by simp), List.foldl_cons]
          exact ih (fun v hv => hmensajes v (List.mem_cons_of_mem u hv))
            (fun v hv => hpropios v (List.mem_cons_of_mem u hv)) hrest (f s a)

/-- A datagram with a message is received as a whole. -/
lemma recibir_datagrama {buf d : List UChar} {us : List (List UChar)} (h : Datagrama seq portid buf.length d us)
    (hne : us ≠ []) (s : σ) :
    recibir seq portid cbData (some d) (buf, s)
      = (let r := mnlCbRun (put buf 0 d) d.length seq portid (cbData (put buf 0 d)) s
         if r.2 ≤ mnlCbStop then .inr r else .inl (put buf 0 d, r.1)) := by
  have hpos : 0 < d.length := by
    obtain ⟨u, us, rfl⟩ := List.exists_cons_of_ne_nil hne
    have hround := le_mnlAlign u.length
    have hend : 0 + mnlAlign u.length ≤ d.length := Format.Laid.le h.enviados.2
    have hcabecera := (h.mensajes u (List.mem_cons_self ..)).cabecera
    omega
  have hret : mnlSocketRecvfrom buf (some d) = (put buf 0 d, (d.length : ℤ)) := by
    rw [mnlSocketRecvfrom, if_neg (Nat.not_lt.mpr h.cabe)]
  rw [recibir, hret]
  exact if_neg (by simpa using List.ne_nil_of_length_pos hpos)

/-- A datagram without the end. -/
lemma recibir_otro (hf : Hace cbData Dice f) {buf d : List UChar} {us : List (List UChar)} {tabla : List α}
    (hsize : buf.length < 2 ^ 31) (h : Datagrama seq portid buf.length d us) (hne : us ≠ [])
    (hdice : List.Forall₂ Dice us tabla) (s : σ) :
    recibir seq portid cbData (some d) (buf, s) = .inl (put buf 0 d, tabla.foldl f s) := by
  have hcabe := h.cabe
  obtain ⟨lugares, hlugares, hrun⟩ := mnlCbRun_eq (by omega) h.mensajes h.enBuffer
  rw [recibir_datagrama h hne]
  simp only [hrun, recorrer_tabla hf hlugares h.mensajes h.propios hdice]
  exact if_neg (by simp)

/-- The datagram with the end; what is behind it is not looked at. -/
lemma recibir_ultimo (hf : Hace cbData Dice f) {buf d done : List UChar} {us rest : List (List UChar)} {tabla : List α}
    (hsize : buf.length < 2 ^ 31) (h : Datagrama seq portid buf.length d (us ++ done :: rest))
    (hdice : List.Forall₂ Dice us tabla) (hdone : nlmsgType done 0 = 3) (s : σ) :
    recibir seq portid cbData (some d) (buf, s) = .inr (tabla.foldl f s, mnlCbStop) := by
  have hcabe := h.cabe
  obtain ⟨lugares, hlugares, hrun⟩ := mnlCbRun_eq (by omega) h.mensajes h.enBuffer
  have hmem : done ∈ us ++ done :: rest := by simp
  obtain ⟨nlh, resto, hresto, hlast, hbehind⟩ :=
    List.forall₂_cons_right_iff.mp (List.forall₂_drop_append _ _ _ hlugares)
  have hfirst := recorrer_tabla hf (List.forall₂_take_append _ _ _ hlugares)
    (fun u hu => h.mensajes u (List.mem_append_left _ hu)) (fun u hu => h.propios u (List.mem_append_left _ hu)) hdice s
  have hall : mnlCbRun (put buf 0 d) d.length seq portid (cbData (put buf 0 d)) s
      = (tabla.foldl f s, mnlCbStop) := by
    rw [hrun, ← List.take_append_drop us.length lugares, recorrer_append hfirst, hbehind, recorrer_cons,
      mnlCbMensaje_done (h.mensajes done hmem) hresto (h.propios done hmem) hdone, if_pos (le_refl _)]
  rw [recibir_datagrama h (by simp)]
  simp only [hall]
  exact if_pos (le_refl _)

/-- **The loop** goes through the table and ends. -/
theorem pedirTabla_eq (hf : Hace cbData Dice f) {buf : List UChar} {ds : List (List UChar)} {tabla : List α}
    (hsize : buf.length < 2 ^ 31) (h : Contestan seq portid buf.length Dice ds tabla) (s : σ) :
    pedirTabla seq portid cbData buf (ds.map some) s = some (tabla.foldl f s, mnlCbStop) := by
  generalize hlen : buf.length = size at h
  induction h generalizing buf s with
  | ultimo hd hdice hdone =>
      subst hlen
      rw [pedirTabla, List.map_cons, run, recibir_ultimo hf hsize hd hdice hdone]
      rfl
  | @otro d ds us tabla tabla' hd hne hdice _ ih =>
      subst hlen
      have hlen := length_put buf 0 d
      rw [pedirTabla, List.map_cons, run, recibir_otro hf hsize hd hne hdice, List.foldl_append]
      exact ih (by omega) (tabla.foldl f s) hlen

end Pedir

/-- A message is a datagram. -/
lemma datagrama_singleton {seq portid size : ℕ} {u : List UChar} (hu : Mensaje u) (hsize : u.length ≤ size)
    (hdvd : 4 ∣ u.length) (hpropio : mnlNlmsgPortidOk u 0 portid ∧ mnlNlmsgSeqOk u 0 seq) :
    Datagrama seq portid size u [u] where
  cabe := hsize
  enviados := ⟨by rw [slice, List.drop_zero, List.take_length], by
    rw [Nat.zero_add]
    exact mnlAlign_of_dvd hdvd⟩
  mensajes := fun _ hv => List.mem_singleton.mp hv ▸ hu
  propios := fun _ hv => List.mem_singleton.mp hv ▸ hpropio

/-- `NLMSG_DONE` with the sequence number 7. -/
def finDeVolcado : List UChar :=
  LittleEndian.bytes 4 20 ++ [3, 0, 2, 0] ++ LittleEndian.bytes 4 7 ++ List.replicate 8 0

end Antop
