import Antop.AttributeTable
import Antop.NetlinkDump
import Antop.GetPrimAddr

/-!
# The address of the interface

`get_if_addr` asks the kernel for the addresses of all interfaces and keeps the last one that is of the interface of
the daemon.  `set_if_addr2` deletes this one before it sets the new address.

* `dataCbDir`, `getIfAddr` — `data_cb` and `get_if_addr` on the bytes that are received.
* **`getIfAddr_eq`** — however the answer is cut, the result is the last address of the interface, or what was in
  memory.
* **`setIfAddr2_getIfAddr`** — `set_if_addr2` deletes an address that the interface has, and the only one when it has
  one, so that the interface has the new address alone then.
-/

namespace Antop

open Memory Chain

/-- An address as the kernel sends it: the index of its interface, and the attribute `IFA_ADDRESS`. -/
structure DirKernel where
  ifaIndex : BitVec 32
  ifaAddress : Option In6Addr

/-- `data_cb` of `if_addr.c`; its `data_attr_cb` validates nothing. -/
def dataCbDir (iflaMax : ℕ) (ifindex : BitVec 32) (m : List UChar) (nlh : ℕ) (data : In6Addr) : In6Addr × ℤ :=
  let tb := tablaDe iflaMax [] m nlh 8
  let addr := (tb 1).map (leerDir m)
  (if campoHost m (nlh + 20) 4 = ifindex.toNat then addr.getD data else data, mnlCbOk)

/-- `get_if_addr`, when the kernel sends the datagrams `ds`: what stands at `if_addr` behind it.  After an error the
daemon ends; `none` when it waits for more. -/
def getIfAddr (iflaMax seq portid : ℕ) (ifindex : BitVec 32) (buf : List UChar) (ds : List (Option (List UChar)))
    (ifAddr : In6Addr) : Option (Option In6Addr) :=
  (pedirTabla seq portid (dataCbDir iflaMax ifindex) buf ds ifAddr).map fun r => if r.2 = -1 then none else some r.1

/-- A message about an address, with its attributes in any order and others between them. -/
structure MensajeDir (u : List UChar) (d : DirKernel) : Prop extends Mensaje u where
  alineado : 4 ∣ u.length
  tipo : 16 ≤ nlmsgType u 0
  ifaIndex : campoHost u 20 4 = d.ifaIndex.toNat
  atributos : ∃ as, Puestos u 24 as u.length ∧ ultimo as 1 = d.ifaAddress.map In6Addr.bytes

/-- What an address does to what has been found. -/
def conDir (ifindex : BitVec 32) (data : In6Addr) (d : DirKernel) : In6Addr :=
  if d.ifaIndex = ifindex then d.ifaAddress.getD data else data

/-- The addresses of the interface. -/
def direcciones (ifindex : BitVec 32) (tabla : List DirKernel) : List In6Addr :=
  (tabla.filter fun d => d.ifaIndex = ifindex).filterMap DirKernel.ifaAddress

/-- **The last address** of the interface is kept. -/
lemma foldl_conDir (ifindex : BitVec 32) (tabla : List DirKernel) (data : In6Addr) :
    tabla.foldl (conDir ifindex) data = (direcciones ifindex tabla).getLast?.getD data := by
  induction tabla using List.reverseRecOn with
  | nil => rfl
  | append_singleton tabla d ih =>
      have happend : direcciones ifindex (tabla ++ [d]) = direcciones ifindex tabla ++ direcciones ifindex [d] := by
        simp [direcciones]
      rw [List.foldl_append, List.foldl_cons, List.foldl_nil, ih, conDir, happend]
      by_cases hd : d.ifaIndex = ifindex
      · cases haddr : d.ifaAddress with
        | none => simp [hd, haddr, direcciones]
        | some a => simp [hd, haddr, direcciones]
      · simp [hd, direcciones]

/-- **A message about an address** is read as this address, wherever it lies. -/
theorem dataCbDir_of_mensajeDir {iflaMax nlh : ℕ} {ifindex : BitVec 32} {m u : List UChar} {d : DirKernel}
    (hmax : 1 ≤ iflaMax) (h : MensajeDir u d) (hu : slice m nlh u.length = u) (data : In6Addr) :
    dataCbDir iflaMax ifindex m nlh data = (conDir ifindex data d, mnlCbOk) := by
  obtain ⟨as, hputs, haddress⟩ := h.atributos
  have hlargo : 24 ≤ u.length := Format.Laid.le hputs
  have hcorto := h.corto
  have htail : mnlNlmsgGetPayloadTail m nlh = nlh + u.length := by
    rw [mnlNlmsgGetPayloadTail, nlmsgLen_lugar h.toMensaje hu, mnlAlign_of_dvd h.alineado,
      Nat.mod_eq_of_lt (by omega)]
  have hshift : Puestos m (mnlNlmsgGetPayloadOffset nlh 8) as (mnlNlmsgGetPayloadTail m nlh) := by
    rw [htail]
    exact Format.Laid.shift hputs hu (le_refl _)
  have htb := tablaDe_rel hshift (by omega) (fun _ _ hno => absurd hno List.not_mem_nil) hmax
  rw [haddress] at htb
  have hindex : campoHost m (nlh + 20) 4 = ifindex.toNat ↔ d.ifaIndex = ifindex := by
    rw [campoHost_lugar hu (by omega), h.ifaIndex]
    exact BitVec.toNat_inj
  rw [dataCbDir, map_of_rel htb fun _ _ => leerDir_of_apunta, conDir]
  simp only [hindex]

/-- **`get_if_addr`.**  However the kernel cuts its answer into datagrams, and whatever was in the buffer, the result is
the last address of the interface in the answer, and what was in memory when there is none. -/
theorem getIfAddr_eq {iflaMax seq portid : ℕ} (hmax : 1 ≤ iflaMax) {buf : List UChar} (hsize : buf.length < 2 ^ 31)
    {ds : List (List UChar)} {tabla : List DirKernel} (h : Contestan seq portid buf.length MensajeDir ds tabla)
    (ifindex : BitVec 32) (ifAddr : In6Addr) :
    getIfAddr iflaMax seq portid ifindex buf (ds.map some) ifAddr
      = some (some ((direcciones ifindex tabla).getLast?.getD ifAddr)) := by
  have hhace : Hace (dataCbDir iflaMax ifindex) MensajeDir (conDir ifindex) :=
    fun _ _ _ _ data _ hd hu => ⟨hd.tipo, dataCbDir_of_mensajeDir hmax hd hu data⟩
  rw [getIfAddr, pedirTabla_eq hhace hsize h, foldl_conDir]
  rfl

/-- **`set_if_addr2`** with `change_addr` gets, and deletes, an address of the interface, so that it never has more
addresses than before; an interface with one address has the new one alone. -/
theorem setIfAddr2_getIfAddr {iflaMax seq portid : ℕ} (hmax : 1 ≤ iflaMax) {buf : List UChar}
    (hsize : buf.length < 2 ^ 31) {ds : List (List UChar)} {tabla : List DirKernel}
    (h : Contestan seq portid buf.length MensajeDir ds tabla) {ifindex : BitVec 32} {n : Node}
    (hiface : (direcciones ifindex tabla).toFinset = n.iface) (hne : n.iface.Nonempty) (fresca ifAddr : In6Addr) :
    ∃ old, getIfAddr iflaMax seq portid ifindex buf (ds.map some) fresca = some (some old) ∧ old ∈ n.iface
      ∧ (n.setIfAddr2 old ifAddr).iface.card ≤ n.iface.card
      ∧ (n.iface.card = 1 → (n.setIfAddr2 old ifAddr).iface = {ifAddr}) := by
  have hlast : direcciones ifindex tabla ≠ [] := by
    rintro hnil
    rw [hnil, List.toFinset_nil] at hiface
    exact hne.ne_empty hiface.symm
  have hold : (direcciones ifindex tabla).getLast hlast ∈ n.iface := by
    rw [← hiface, List.mem_toFinset]
    exact List.getLast_mem hlast
  refine ⟨(direcciones ifindex tabla).getLast hlast, ?_, hold, ?_, fun hone => ?_⟩
  · rw [getIfAddr_eq hmax hsize h, List.getLast?_eq_getLast_of_ne_nil hlast, Option.getD_some]
  · have hcard := Finset.card_erase_add_one hold
    exact (Finset.card_insert_le _ _).trans hcard.le
  · obtain ⟨b, hb⟩ := Finset.card_eq_one.mp hone
    rw [hb, Finset.mem_singleton] at hold
    rw [Node.setIfAddr2, hold, hb, Finset.erase_singleton]
    rfl

/-- A message about the address of the root on the interface 2. -/
def dirDelRoot : List UChar :=
  LittleEndian.bytes 4 44 ++ [20, 0, 2, 0] ++ LittleEndian.bytes 4 7 ++ List.replicate 4 0 ++ [10, 64, 0, 0]
    ++ LittleEndian.bytes 4 2 ++ Atributo.bytes ⟨1, root.bytes, cabe_bytes root⟩

lemma mensajeDir_dirDelRoot : MensajeDir dirDelRoot ⟨2, some root⟩ where
  cabecera := by decide
  largo := by decide
  corto := by decide
  alineado := by decide
  tipo := by decide
  ifaIndex := by decide
  atributos := ⟨[⟨1, root.bytes, cabe_bytes root⟩], ⟨by decide, rfl⟩, by decide⟩

/-- The interface of the root gets the address of its first child. -/
theorem setIfAddr2_getIfAddr_root :
    ∃ old, getIfAddr 30 7 0 2 (List.replicate 100 9) ([dirDelRoot, finDeVolcado].map some) .zero = some (some old)
      ∧ old ∈ ({root} : Finset In6Addr)
      ∧ (Node.setIfAddr2 old (slotAddr root 0) { Node.hijo with iface := {root} }).iface.card
          ≤ ({root} : Finset In6Addr).card
      ∧ (({root} : Finset In6Addr).card = 1 →
          (Node.setIfAddr2 old (slotAddr root 0) { Node.hijo with iface := {root} }).iface = {slotAddr root 0}) := by
  have hprimero : Datagrama 7 0 100 dirDelRoot [dirDelRoot] :=
    datagrama_singleton mensajeDir_dirDelRoot.toMensaje (by decide) (by decide) (by decide)
  have hfin : Mensaje finDeVolcado := ⟨by decide, by decide, by decide⟩
  have hsegundo : Datagrama 7 0 100 finDeVolcado ([] ++ finDeVolcado :: []) :=
    datagrama_singleton hfin (by decide) (by decide) (by decide)
  have hresto : Contestan 7 0 100 MensajeDir [finDeVolcado] [] := .ultimo hsegundo .nil (by decide)
  have hbuf : (List.replicate 100 (9 : UChar)).length = 100 := List.length_replicate
  have hdump : Contestan 7 0 (List.replicate 100 (9 : UChar)).length MensajeDir [dirDelRoot, finDeVolcado]
      [⟨2, some root⟩] :=
    hbuf ▸ .otro hprimero (List.cons_ne_nil _ _) (.cons mensajeDir_dirDelRoot .nil) hresto
  exact setIfAddr2_getIfAddr (n := { Node.hijo with iface := {root} }) (by decide) (by rw [hbuf]; decide) hdump rfl
    (Finset.singleton_nonempty root) _ _

end Antop
