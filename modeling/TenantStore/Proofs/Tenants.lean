import TenantStore.Namespace

/-!
# Namespaces of different tenants

A namespace joins the ids of an application and a company by a separator that the ids may contain
themselves. Two tenants share a namespace exactly if they are the same, or if what one application
id has beyond the other is the start of the other tenant's company id (`tenants_share_namespace`).
The keys of their tables are shared together with the namespace and not otherwise.
-/

namespace TenantStore.Namespace

def separator : String := "_company_"

def KeptApp (app : String) : Prop :=
  app ≠ "" ∧ ∀ c ∈ app.toList, ('a' ≤ c ∧ c ≤ 'z') ∨ ('0' ≤ c ∧ c ≤ '9') ∨ c = '_'

def KeptCompany (company : String) : Prop :=
  company ≠ "" ∧ ∀ c ∈ company.toList, Text.isAsciiWord c = true

-- The characters are gone through one by one; another instance would go through all there are.
instance (app : String) : Decidable (KeptApp app) :=
  @instDecidableAnd _ _ _ (List.decidableBAll _ _)

instance (company : String) : Decidable (KeptCompany company) :=
  @instDecidableAnd _ _ _ (List.decidableBAll _ _)

/-- The second application id goes on where the first one ends, with a start of the first tenant's
company id. -/
def Continues (app company app' company' : String) : Prop :=
  ∃ x, x ≠ "" ∧ app' ++ separator = app ++ separator ++ x ∧ company = x ++ company'

-- ---------------------------------------------------------------------------
-- What a namespace keeps
-- ---------------------------------------------------------------------------

theorem sanitize_kept (h : ∀ c ∈ s.toList, Text.isAsciiWord c = true) : sanitize s = s.toList := by
  have hmap : sanitize s = s.toList.map id := List.map_congr_left fun c hc => if_pos (h c hc)
  rw [hmap, List.map_id]

theorem KeptApp.words (h : KeptApp app) : ∀ c ∈ app.toList, Text.isAsciiWord c = true := by
  intro c hc
  obtain ⟨ha, hz⟩ | ⟨h0, h9⟩ | rfl := h.2 c hc
  · simp [Text.isAsciiWord, Text.isAsciiLetter, ha, hz]
  · simp [Text.isAsciiWord, Text.isAsciiDigit, h0, h9]
  · rfl

theorem KeptApp.sanitize_lower (h : KeptApp app) :
    (sanitize app).map Text.lowerAscii = app.toList := by
  have hlower : ∀ c ∈ app.toList, Text.lowerAscii c = id c := by
    intro c hc
    refine if_neg ?_
    rintro ⟨hA, hZ⟩
    obtain ⟨ha, -⟩ | ⟨-, h9⟩ | rfl := h.2 c hc
    · exact absurd (Char.le_trans ha hZ) (by decide)
    · exact absurd (Char.le_trans hA h9) (by decide)
    · exact absurd hZ (by decide)
  rw [sanitize_kept h.words, List.map_congr_left hlower, List.map_id]

theorem ofTenant_kept (ha : KeptApp app) (hc : KeptCompany company) :
    ofTenant app (some company) = "app_" ++ (app ++ separator ++ company) := by
  have hcompany : ofTenant app (some company) = String.ofList ("app_".toList ++
      (sanitize app).map Text.lowerAscii ++ "_company_".toList ++ sanitize company) := by
    unfold ofTenant
    split
    · rename_i heq
      cases heq
    · rename_i heq
      exact absurd (Option.some.inj heq) hc.1
    · rename_i heq
      rw [Option.some.inj heq]
  rw [hcompany, ha.sanitize_lower, sanitize_kept hc.2, ← String.toList_inj]
  simp only [String.toList_ofList, String.toList_append, separator, List.append_assoc]

/-- A namespace of kept ids has no point, so the first point of a key ends its namespace. -/
theorem point_not_mem_ofTenant (ha : KeptApp app) (hc : KeptCompany company) :
    '.' ∉ (ofTenant app (some company)).toList := by
  have hpoint : ∀ {cs : List Char}, (∀ c ∈ cs, Text.isAsciiWord c = true) → '.' ∉ cs :=
    fun h hmem => absurd (h _ hmem) (by decide)
  rw [ofTenant_kept ha hc]
  simp only [String.toList_append, List.mem_append, not_or]
  exact ⟨by decide, ⟨hpoint ha.words, by decide⟩, hpoint hc.2⟩

-- ---------------------------------------------------------------------------
-- What tenants share
-- ---------------------------------------------------------------------------

/-- Where a joined text is that of another tenant, one of the two first parts and its separator go
on behind the other's. -/
theorem joined_eq_iff (app company app' company' : String) :
    app ++ separator ++ company = app' ++ separator ++ company' ↔
      (app = app' ∧ company = company') ∨ Continues app company app' company' ∨
        Continues app' company' app company := by
  have hlist : app ++ separator ++ company = app' ++ separator ++ company' ↔
      (∃ x, app' ++ separator = app ++ separator ++ x ∧ company = x ++ company') ∨
        ∃ x, app ++ separator = app' ++ separator ++ x ∧ company' = x ++ company := by
    rw [← String.toList_inj, String.toList_append, String.toList_append (s := app' ++ separator),
      List.append_eq_append_iff]
    refine or_congr ?_ ?_ <;>
    · constructor
      · rintro ⟨x, h, h'⟩
        refine ⟨String.ofList x, ?_, ?_⟩ <;> rw [← String.toList_inj] <;> simp_all
      · rintro ⟨x, h, h'⟩
        rw [h, h']
        exact ⟨x.toList, by simp, by simp⟩
  rw [hlist]
  constructor
  · rintro (⟨x, h, h'⟩ | ⟨x, h, h'⟩)
    · by_cases hx : x = ""
      · subst hx
        exact .inl ⟨by simpa using h.symm, by simpa using h'⟩
      · exact .inr (.inl ⟨x, hx, h, h'⟩)
    · by_cases hx : x = ""
      · subst hx
        exact .inl ⟨by simpa using h, by simpa using h'.symm⟩
      · exact .inr (.inr ⟨x, hx, h, h'⟩)
  · rintro (⟨rfl, rfl⟩ | ⟨x, -, h⟩ | ⟨x, -, h⟩)
    · exact .inl ⟨"", by simp, by simp⟩
    · exact .inl ⟨x, h⟩
    · exact .inr ⟨x, h⟩

theorem tableKey_eq_iff (h : '.' ∉ ns.toList) (h' : '.' ∉ ns'.toList) (table table' : String) :
    tableKey ns table = tableKey ns' table' ↔ ns = ns' ∧ table = table' := by
  constructor
  · intro heq
    unfold tableKey at heq
    rw [← String.toList_inj] at heq
    simp only [String.toList_append, List.append_assoc] at heq
    have hsplit : ∀ (ds : List Char) {cs : List Char} (_ : '.' ∉ cs),
        (cs ++ (".".toList ++ ds)).takeWhile (· ≠ '.') = cs := by
      intro ds cs hcs
      rw [List.takeWhile_append_of_pos (by
        intro c hc
        simp only [ne_eq, decide_eq_true_eq]
        rintro rfl
        exact hcs hc)]
      simp
    have hns : ns.toList = ns'.toList := by
      rw [← hsplit table.toList h, heq, hsplit _ h']
    rw [hns, List.append_cancel_left_eq, List.append_cancel_left_eq] at heq
    exact ⟨String.toList_inj.mp hns, String.toList_inj.mp heq⟩
  · rintro ⟨rfl, rfl⟩
    rfl

/-- Two tenants share a namespace exactly if they are the same or one continues the other, and the
keys of two tables are the same exactly if the namespaces are and the tables are. -/
theorem tenants_share_namespace (ha : KeptApp app) (hc : KeptCompany company)
    (ha' : KeptApp app') (hc' : KeptCompany company') :
    (ofTenant app (some company) = ofTenant app' (some company') ↔
      (app = app' ∧ company = company') ∨ Continues app company app' company' ∨
        Continues app' company' app company) ∧
    ∀ table table', tableKey (ofTenant app (some company)) table =
        tableKey (ofTenant app' (some company')) table' ↔
      ofTenant app (some company) = ofTenant app' (some company') ∧ table = table' := by
  refine ⟨?_, tableKey_eq_iff (point_not_mem_ofTenant ha hc) (point_not_mem_ofTenant ha' hc')⟩
  rw [ofTenant_kept ha hc, ofTenant_kept ha' hc', String.append_right_inj, joined_eq_iff]

theorem tenants_share_namespace_company :
    tableKey (ofTenant "shop" (some "company_acme")) "orders" =
      tableKey (ofTenant "shop_company" (some "acme")) "orders" := by
  have happ : KeptApp "shop" ∧ KeptApp "shop_company" := by decide
  have hcompany : KeptCompany "company_acme" ∧ KeptCompany "acme" := by decide
  have hcontinues : Continues "shop" "company_acme" "shop_company" "acme" :=
    ⟨"company_", by decide⟩
  obtain ⟨hns, hkey⟩ := tenants_share_namespace happ.1 hcompany.1 happ.2 hcompany.2
  exact (hkey _ _).mpr ⟨hns.mpr (.inr (.inl hcontinues)), rfl⟩

/-- Different tenants whose tables have the same key. -/
theorem tenants_not_isolated : KeptApp "a" ∧ KeptCompany "b_company_c" ∧ KeptApp "a_company_b" ∧
    KeptCompany "c" ∧ ("a", "b_company_c") ≠ ("a_company_b", "c") ∧
    ofTenant "a" (some "b_company_c") = ofTenant "a_company_b" (some "c") ∧
    tableKey (ofTenant "a" (some "b_company_c")) "t" =
      tableKey (ofTenant "a_company_b" (some "c")) "t" := by
  decide

end TenantStore.Namespace
