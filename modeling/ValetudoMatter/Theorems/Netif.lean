import ValetudoMatter.Net

/-!
# The interface that is picked

The entries are sorted for the sake of the IPv6 address; the sort is stable and gives all IPv4 entries the same key, so these are
searched in the order of the list. The search is stated without the sort and without the arm that is not reached
(`pick_eq`), and what it finds is a pair of entries of one interface.
-/

namespace ValetudoMatter

open Coroutine SortByKey

/-- Two entries of an interface that can be used: a suitable IPv4 and a suitable IPv6 entry with the same name and index. -/
structure Partners (ipv4 ipv6 : Interface) : Prop where
  suitable4 : interfaceSuitable ipv4
  suitable6 : interfaceSuitable ipv6
  address4 : ∃ addr, ipv4.address = .v4 addr
  address6 : ∃ addr, ipv6.address = .v6 addr
  name : ipv6.name = ipv4.name
  index : ipv6.index = ipv4.index

theorem Partners.isIpv4 {ipv4 ipv6 : Interface} (h : Partners ipv4 ipv6) : ipv4.address.isIpv4 := by
  obtain ⟨addr, haddr⟩ := h.address4
  rw [haddr]
  rfl

/-- An entry has a link-local IPv6 address. -/
def Interface.LinkLocal (iface : Interface) : Prop := ∃ addr, iface.address = .v6 addr ∧ addr.isUnicastLinkLocal

/-- An interface that is made of two entries. -/
structure Netif.MadeOf (netif : Netif) (ipv4 ipv6 : Interface) : Prop where
  ipv4Addr : ipv4.address = .v4 netif.ipv4Addr
  ipv6Addr : ipv6.address = .v6 netif.ipv6Addr
  name : netif.name = ipv4.name
  index : netif.index = ipv4.index

namespace Netif

/-! ## The search -/

/-- The interface of two entries, if they have one. -/
def pair? (ipv4 ipv6 : Interface) : Option Netif :=
  match pair ipv4 ipv6 with
  | .ok res => res
  | .error .unreachable => none

/-- The arm that is not reached is not reached at an IPv4 entry. -/
theorem pair_eq {ipv4 : Interface} (h : ipv4.address.isIpv4) (ipv6 : Interface) : pair ipv4 ipv6 = .ok (pair? ipv4 ipv6) := by
  unfold pair? pair
  split
  · rfl
  · cases haddr : ipv4.address with
    | v4 addr => cases ipv6.address <;> rfl
    | v6 addr => simp [haddr, Address.isIpv4] at h
    | other => simp [haddr, Address.isIpv4] at h

/-- Two entries have an interface if they agree on its name and its index, and are of the two versions. -/
theorem pair?_eq_some_iff {ipv4 ipv6 : Interface} {netif : Netif} :
    pair? ipv4 ipv6 = some netif ↔ ipv6.name = ipv4.name ∧ ipv6.index = ipv4.index ∧ netif.MadeOf ipv4 ipv6 := by
  unfold pair? pair
  by_cases hsame : ipv6.index = ipv4.index ∧ ipv6.name = ipv4.name
  · have hcond : ¬ (ipv6.index ≠ ipv4.index ∨ ipv6.name ≠ ipv4.name) := by
      simp [hsame.1, hsame.2]
    rw [if_neg hcond]
    cases haddr4 : ipv4.address with
    | v4 addr4 =>
      cases haddr6 : ipv6.address with
      | v6 addr6 =>
        constructor
        · rintro ⟨⟩
          exact ⟨hsame.2, hsame.1, haddr4, haddr6, rfl, rfl⟩
        · rintro ⟨-, -, hmade⟩
          have h4 := hmade.ipv4Addr
          have h6 := hmade.ipv6Addr
          rw [haddr4] at h4
          rw [haddr6] at h6
          cases h4
          cases h6
          simp [← hmade.name, ← hmade.index]
      | v4 addr6 => exact iff_of_false nofun fun h => by simpa [haddr6] using h.2.2.ipv6Addr
      | other => exact iff_of_false nofun fun h => by simpa [haddr6] using h.2.2.ipv6Addr
    | v6 addr4 => exact iff_of_false nofun fun h => by simpa [haddr4] using h.2.2.ipv4Addr
    | other => exact iff_of_false nofun fun h => by simpa [haddr4] using h.2.2.ipv4Addr
  · have hcond : ipv6.index ≠ ipv4.index ∨ ipv6.name ≠ ipv4.name := by
      by_contra hcond
      rw [not_or, not_not, not_not] at hcond
      exact hsame hcond
    rw [if_pos hcond]
    exact iff_of_false nofun fun h => hsame ⟨h.2.1, h.1⟩

/-- The interface of an IPv4 entry: that of the first of the sorted entries that it has one with. -/
def partner? (entries : List Interface) (ipv4 : Interface) : Option Netif :=
  (sortByKey sortKey (entries.filter interfaceSuitable)).findSome? (pair? ipv4)

/-- A search that panics at none of the entries. -/
theorem filterMapM_ok {α β : Type} {f : α → Except Panic (Option β)} {g : α → Option β} {l : List α}
    (h : ∀ a ∈ l, f a = .ok (g a)) : l.filterMapM f = .ok (l.filterMap g) := by
  induction l with
  | nil => rfl
  | cons a l ih =>
    rw [List.filterMapM_cons, h a (by simp), ih fun b hb => h b (List.mem_cons_of_mem _ hb), List.filterMap_cons]
    cases g a <;> rfl

/-- The interface that is picked is that of the first suitable IPv4 entry that has one. -/
theorem pick_eq (entries : List Interface) :
    pick (.ok entries) =
      match ((entries.filter interfaceSuitable).filter fun iface => iface.address.isIpv4).findSome? (partner? entries) with
      | some res => .done res
      | none => .fail { kind := .networkUnreachable, error := "No suitable network interface found" } := by
  have hsorted : (sortByKey sortKey (entries.filter interfaceSuitable)).filter (fun iface => iface.address.isIpv4) =
      (entries.filter interfaceSuitable).filter fun iface => iface.address.isIpv4 := by
    apply filter_sortByKey (k := 1)
    intro iface _ hiface
    cases haddr : iface.address with
    | v4 addr => simp only [sortKey, haddr]
    | v6 addr => simp [haddr, Address.isIpv4] at hiface
    | other => simp [haddr, Address.isIpv4] at hiface
  have hsearch : ∀ ipv4 ∈ (entries.filter interfaceSuitable).filter (fun iface => iface.address.isIpv4),
      (sortByKey sortKey (entries.filter interfaceSuitable)).findSomeM? (pair ipv4) = .ok (partner? entries ipv4) := by
    intro ipv4 hipv4
    have hpair : pair ipv4 = fun ipv6 => pure (pair? ipv4 ipv6) := funext (pair_eq (List.mem_filter.mp hipv4).2)
    rw [hpair, List.findSomeM?_pure]
    rfl
  simp only [pick, hsorted, filterMapM_ok hsearch]
  rw [← List.head?_filterMap]
  split
  · rename_i h
    cases h
  · rename_i h
    rw [Except.ok.inj h]
    rfl
  · rename_i h
    rw [Except.ok.inj h]
    rfl

/-- What is found for an IPv4 entry is made of it and an IPv6 entry of its interface, a link-local one if there is one. -/
theorem partner?_spec {entries : List Interface} {ipv4 : Interface} {netif : Netif} (hsuitable : interfaceSuitable ipv4)
    (h : partner? entries ipv4 = some netif) :
    ∃ ipv6 ∈ entries, Partners ipv4 ipv6 ∧ netif.MadeOf ipv4 ipv6 ∧
      ((∃ iface ∈ entries, Partners ipv4 iface ∧ iface.LinkLocal) → netif.ipv6Addr.isUnicastLinkLocal) := by
  obtain ⟨ipv6, hmem, hpair, hleast⟩ := findSome_sortByKey h
  obtain ⟨hmem, hsuitable6⟩ := List.mem_filter.mp hmem
  obtain ⟨hname, hindex, hmade⟩ := pair?_eq_some_iff.mp hpair
  refine ⟨ipv6, hmem, ⟨hsuitable, hsuitable6, ⟨_, hmade.ipv4Addr⟩, ⟨_, hmade.ipv6Addr⟩, hname, hindex⟩, hmade, ?_⟩
  rintro ⟨iface, hiface, hpartners, addr, haddr, hlocal⟩
  have hfound : (pair? ipv4 iface).isSome := by
    rw [Option.isSome_iff_exists]
    exact ⟨⟨netif.ipv4Addr, addr, ipv4.name, ipv4.index⟩,
      pair?_eq_some_iff.mpr ⟨hpartners.name, hpartners.index, hmade.ipv4Addr, haddr, rfl, rfl⟩⟩
  have hkey := hleast iface (List.mem_filter.mpr ⟨hiface, hpartners.suitable6⟩) hfound
  -- the key of a link-local entry is zero, so that of the entry found is too
  by_contra hnot
  simp [sortKey, haddr, hlocal, hmade.ipv6Addr, hnot] at hkey

/-- Where there is an IPv6 entry of its interface, an interface is found for an IPv4 entry. -/
theorem partner?_isSome {entries : List Interface} {ipv4 ipv6 : Interface} (hmem : ipv6 ∈ entries)
    (h : Partners ipv4 ipv6) : ∃ netif, partner? entries ipv4 = some netif := by
  obtain ⟨addr4, haddr4⟩ := h.address4
  obtain ⟨addr6, haddr6⟩ := h.address6
  rw [← Option.isSome_iff_exists, partner?, List.findSome?_isSome_iff]
  refine ⟨ipv6, mem_sortByKey.mpr (List.mem_filter.mpr ⟨hmem, h.suitable6⟩), ?_⟩
  rw [Option.isSome_iff_exists]
  exact ⟨⟨addr4, addr6, ipv4.name, ipv4.index⟩, pair?_eq_some_iff.mpr ⟨h.name, h.index, haddr4, haddr6, rfl, rfl⟩⟩

/-- What a search of a part of a list finds, it finds at the first entry of the part that has it. -/
theorem findSome_filter {α β : Type} {p : α → Bool} {f : α → Option β} {l : List α} {b : β}
    (h : (l.filter p).findSome? f = some b) :
    ∃ l₁ a l₂, l = l₁ ++ a :: l₂ ∧ p a ∧ f a = some b ∧ ∀ x ∈ l₁, p x → f x = none := by
  induction l with
  | nil => cases h
  | cons x l ih =>
    by_cases hx : p x ∧ ∃ c, f x = some c
    · obtain ⟨hp, c, hc⟩ := hx
      rw [List.filter_cons_of_pos hp, List.findSome?_cons, hc] at h
      exact ⟨[], x, l, rfl, hp, hc.trans h, by simp⟩
    · have hnone : p x → f x = none := fun hp => Option.eq_none_iff_forall_ne_some.mpr fun c hc => hx ⟨hp, c, hc⟩
      have hrest : (l.filter p).findSome? f = some b := by
        by_cases hp : p x
        · rwa [List.filter_cons_of_pos hp, List.findSome?_cons, hnone hp] at h
        · rwa [List.filter_cons_of_neg hp] at h
      obtain ⟨l₁, a, l₂, rfl, hpa, hab, hbefore⟩ := ih hrest
      refine ⟨x :: l₁, a, l₂, rfl, hpa, hab, ?_⟩
      intro y hy
      rcases List.mem_cons.mp hy with rfl | hy
      · exact hnone
      · exact hbefore y hy

/-- Interface selection is sound and complete. For every list of entries: the arm that cannot be reached is not; an interface is
picked exactly when there are two entries of one that can be used; it is made of two such entries, of which the IPv4 entry is
the first of the list that has an IPv6 partner, and the IPv6 address is link-local if any partner of it is. -/
theorem pick_sound_complete (entries : List Interface) :
    pick (.ok entries) ≠ .abort ∧
      ((∃ netif, pick (.ok entries) = .done netif) ↔ ∃ ipv4 ∈ entries, ∃ ipv6 ∈ entries, Partners ipv4 ipv6) ∧
      ∀ netif, pick (.ok entries) = .done netif →
        ∃ before ipv4 after ipv6, entries = before ++ ipv4 :: after ∧ ipv6 ∈ entries ∧ Partners ipv4 ipv6 ∧
          netif.MadeOf ipv4 ipv6 ∧ (∀ iface ∈ before, ∀ iface' ∈ entries, ¬ Partners iface iface') ∧
          ((∃ iface ∈ entries, Partners ipv4 iface ∧ iface.LinkLocal) → netif.ipv6Addr.isUnicastLinkLocal) := by
  rw [pick_eq, List.filter_filter]
  refine ⟨by split <;> nofun, ?_, ?_⟩
  · constructor
    · rintro ⟨netif, h⟩
      split at h
      · rename_i res hres
        obtain ⟨before, ipv4, after, rfl, hp, hfound, -⟩ := findSome_filter hres
        obtain ⟨ipv6, hmem, hpartners, -⟩ := partner?_spec (Bool.and_eq_true_iff.mp hp).2 hfound
        exact ⟨ipv4, by simp, ipv6, hmem, hpartners⟩
      · cases h
    · rintro ⟨ipv4, hipv4, ipv6, hipv6, hpartners⟩
      split
      · rename_i res _
        exact ⟨res, rfl⟩
      · rename_i hnone
        obtain ⟨netif, hnetif⟩ := partner?_isSome hipv6 hpartners
        have := List.findSome?_eq_none_iff.mp hnone ipv4
          (List.mem_filter.mpr ⟨hipv4, Bool.and_eq_true_iff.mpr ⟨hpartners.isIpv4, hpartners.suitable4⟩⟩)
        rw [hnetif] at this
        cases this
  · intro netif h
    split at h
    · rename_i res hres
      cases h
      obtain ⟨before, ipv4, after, hentries, hp, hfound, hbefore⟩ := findSome_filter hres
      obtain ⟨ipv6, hmem, hpartners, hmade, hlocal⟩ := partner?_spec (Bool.and_eq_true_iff.mp hp).2 hfound
      refine ⟨before, ipv4, after, ipv6, hentries, hmem, hpartners, hmade, ?_, hlocal⟩
      intro iface hiface iface' hiface' hpartners'
      obtain ⟨netif', hnetif'⟩ := partner?_isSome hiface' hpartners'
      rw [hbefore iface hiface (Bool.and_eq_true_iff.mpr ⟨hpartners'.isIpv4, hpartners'.suitable4⟩)] at hnetif'
      cases hnetif'
    · cases h

end Netif

end ValetudoMatter
