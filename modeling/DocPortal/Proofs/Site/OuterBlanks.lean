/-
What blanks around the texts of variables do to a site. Sites whose
variables are set alike between their blanks serve the same scripts and the
same option bag under the same request id header; the page is the same only
if the text of the asset base is the same, blanks and all
(`document_eq_of_alike`).
-/
import DocPortal.Proofs.Settings.OuterBlanks
import DocPortal.Proofs.Site.Setup
import DocPortal.Proofs.Viewer.Draft
import DocPortal.Proofs.Viewer.MountPoint
import DocPortal.Proofs.Viewer.Page

namespace DocPortal.Site

open Settings (AlikeBetweenBlanks)
open Viewer

section Alike

variable {env other : Lookup} (h : AlikeBetweenBlanks env other)
  {settings otherSettings : Settings} {site otherSite : Site}
  (hsetup : (setUp env).result = .ok (settings, site))
  (hother : (setUp other).result = .ok (otherSettings, otherSite))
include h hsetup hother

/-- A checked mount point has no blanks, so the configurations are the same. -/
theorem config_eq_of_alike : site.config = otherSite.config := by
  obtain ⟨hread, hcheck, -⟩ := setUp_eq_ok_iff.1 hsetup
  obtain ⟨hotherRead, hotherCheck, -⟩ := setUp_eq_ok_iff.1 hother
  have hsaid := Settings.read_eq_ok_iff.1 hread
  have hotherSaid := Settings.read_eq_ok_iff.1 hotherRead
  have hdraft := Draft.toDraft_of_check hcheck
  have hotherDraft := Draft.toDraft_of_check hotherCheck
  have hmount : site.config.mountPoint.selector = settings.mountPoint :=
    congrArg Draft.mountPoint hdraft
  have hotherMount : otherSite.config.mountPoint.selector = otherSettings.mountPoint :=
    congrArg Draft.mountPoint hotherDraft
  have hsame : settings.mountPoint = otherSettings.mountPoint := by
    have htrim := Settings.trim_mountPoint_eq_of_alike h hsaid hotherSaid
    rwa [← hmount, ← hotherMount, MountPoint.trim_selector, MountPoint.trim_selector, hmount,
      hotherMount] at htrim
  apply Config.toDraft_inj
  rw [hdraft, hotherDraft, Settings.eq_of_alike h hsaid hotherSaid, Settings.draft,
    Settings.draft, hsame]

theorem requestIdHeader_eq_of_alike : site.requestIdHeader = otherSite.requestIdHeader := by
  obtain ⟨hread, -, hsite⟩ := setUp_eq_ok_iff.1 hsetup
  obtain ⟨hotherRead, -, hotherSite⟩ := setUp_eq_ok_iff.1 hother
  obtain ⟨-, -, hheader⟩ := ofSettings_eq_ok_iff.1 hsite
  obtain ⟨-, -, hotherHeader⟩ := ofSettings_eq_ok_iff.1 hotherSite
  rw [Settings.requestIdHeader_eq_of_alike h (Settings.read_eq_ok_iff.1 hread)
    (Settings.read_eq_ok_iff.1 hotherRead), hotherHeader] at hheader
  exact (Option.some.inj hheader).symm

theorem assets_eq_iff_of_alike :
    site.assets = otherSite.assets ↔
      env Settings.assetBaseVariable = other Settings.assetBaseVariable := by
  obtain ⟨hread, -, hsite⟩ := setUp_eq_ok_iff.1 hsetup
  obtain ⟨hotherRead, -, hotherSite⟩ := setUp_eq_ok_iff.1 hother
  obtain ⟨-, hassets, -⟩ := ofSettings_eq_ok_iff.1 hsite
  obtain ⟨-, hotherAssets, -⟩ := ofSettings_eq_ok_iff.1 hotherSite
  have hsaid := Settings.read_eq_ok_iff.1 hread
  have hotherSaid := Settings.read_eq_ok_iff.1 hotherRead
  rw [← Settings.assetBase_eq_iff_of_alike h hsaid hotherSaid, hassets, hotherAssets,
    Settings.assets, Settings.assets, Assets.ofBase, Assets.ofBase, Assets.mk.injEq,
    hsaid.trimEndOf_assetBase, hotherSaid.trimEndOf_assetBase]

theorem page_eq_iff_of_alike :
    site.document .page = otherSite.document .page ↔
      env Settings.assetBaseVariable = other Settings.assetBaseVariable := by
  rw [← assets_eq_iff_of_alike h hsetup hother, document_page, document_page,
    config_eq_of_alike h hsetup hother]
  constructor
  · intro heq
    exact Page.eq_of_render_eq (congrArg Http.Response.body heq)
  · intro heq
    rw [heq]

end Alike

/-- **Blanks around a setting change what is served only through the asset base**: of two setups
from variables that are set alike between their blanks, both of which go well, the configurations
are the same, and so are the request id header and every document but the page; the page is the
same if and only if the variables have the same text for the asset base, blanks included. -/
theorem document_eq_of_alike {env other : Lookup} {settings otherSettings : Settings}
    {site otherSite : Site} (h : AlikeBetweenBlanks env other)
    (hsetup : (setUp env).result = .ok (settings, site))
    (hother : (setUp other).result = .ok (otherSettings, otherSite)) :
    site.config = otherSite.config ∧ site.requestIdHeader = otherSite.requestIdHeader ∧
    (∀ document, document ≠ .page → site.document document = otherSite.document document) ∧
    (site.document .page = otherSite.document .page ↔
      env Settings.assetBaseVariable = other Settings.assetBaseVariable) := by
  have hconfig := config_eq_of_alike h hsetup hother
  refine ⟨hconfig, requestIdHeader_eq_of_alike h hsetup hother, ?_,
    page_eq_iff_of_alike h hsetup hother⟩
  intro document hpage
  cases document with
  | page => exact absurd rfl hpage
  | health => rfl
  | initializerScript => rw [document_initializerScript, document_initializerScript, hconfig]
  | configScript => rw [document_configScript, document_configScript, hconfig]
  | optionBag => rw [Site.document, Site.document, hconfig]

/-- Variables for a source, a request id header and an asset base, with `pad` behind the
texts. -/
def paddedVariables (pad : String) : Lookup := fun variableName =>
  if variableName = Settings.sourcesVariable then some ("A = /a" ++ pad)
  else if variableName = Settings.requestIdHeaderVariable then some ("X-Id" ++ pad)
  else if variableName = Settings.assetBaseVariable then some ("/x/" ++ pad)
  else none

/-- What they say. -/
def paddedSettings (pad : String) : Settings where
  port := Settings.defaultPort
  sources := [⟨"A", "/a"⟩]
  mountPoint := MountPoint.defaultSelector
  credentials := .always
  presets := [.apis, .standalone]
  layout := .standalone
  deepLinking := false
  assetBase := Text.trimEndOf '/' ("/x/" ++ pad)
  allowedOrigins := []
  requestIdHeader := "x-id"

/-- The site they describe. -/
def paddedSite (pad : String) : Site where
  config := { Config.stock with
    sources := [⟨"A", "/a"⟩]
    sources_ne_nil := by decide
    sources_sound := by decide }
  assets := Assets.ofBase ("/x/" ++ pad)
  requestIdHeader := ⟨"x-id", by decide⟩

theorem alike_paddedVariables : AlikeBetweenBlanks (paddedVariables " ") (paddedVariables "") := by
  intro variableName
  by_cases hsources : variableName = Settings.sourcesVariable
  · subst hsources
    exact .inr ⟨"A = /a ", "A = /a", by decide⟩
  by_cases hheader : variableName = Settings.requestIdHeaderVariable
  · subst hheader
    exact .inr ⟨"X-Id ", "X-Id", by decide⟩
  by_cases hbase : variableName = Settings.assetBaseVariable
  · subst hbase
    exact .inr ⟨"/x/ ", "/x/", by decide⟩
  · left
    simp only [paddedVariables, if_neg hsources, if_neg hheader, if_neg hbase]

theorem result_setUp_paddedVariables (pad : String) (h : pad ∈ [" ", ""]) :
    (setUp (paddedVariables pad)).result = .ok (paddedSettings pad, paddedSite pad) := by
  have hheader : Http.HeaderName.ofText? "x-id" = some ⟨"x-id", by decide⟩ := by decide +kernel
  simp only [List.mem_cons, List.not_mem_nil, or_false] at h
  rcases h with rfl | rfl
  · have hread : Settings.SaidBy (paddedVariables " ") (paddedSettings " ") := by
      constructor <;> decide +kernel
    exact setUp_eq_ok_iff.2 ⟨Settings.read_eq_ok_iff.2 hread, rfl,
      ofSettings_eq_ok_iff.2 ⟨rfl, by decide, hheader⟩⟩
  · have hread : Settings.SaidBy (paddedVariables "") (paddedSettings "") := by
      constructor <;> decide +kernel
    exact setUp_eq_ok_iff.2 ⟨Settings.read_eq_ok_iff.2 hread, rfl,
      ofSettings_eq_ok_iff.2 ⟨rfl, by decide, hheader⟩⟩

theorem document_eq_of_alike_paddedVariables :
    (paddedSite " ").document .optionBag = (paddedSite "").document .optionBag ∧
    (paddedSite " ").document .page ≠ (paddedSite "").document .page := by
  obtain ⟨-, -, hdocuments, hpage⟩ := document_eq_of_alike alike_paddedVariables
    (result_setUp_paddedVariables " " (by decide)) (result_setUp_paddedVariables "" (by decide))
  refine ⟨hdocuments .optionBag (by decide), ?_⟩
  intro heq
  exact absurd (hpage.1 heq) (by decide)

theorem exists_alike_with_other_page :
    ∃ (env other : Lookup) (settings otherSettings : Settings) (site otherSite : Site),
      AlikeBetweenBlanks env other ∧ (setUp env).result = .ok (settings, site) ∧
      (setUp other).result = .ok (otherSettings, otherSite) ∧
      site.document .page ≠ otherSite.document .page := by
  have hpadded := result_setUp_paddedVariables " " (by decide)
  have hbare := result_setUp_paddedVariables "" (by decide)
  refine ⟨_, _, _, _, _, _, alike_paddedVariables, hpadded, hbare, ?_⟩
  intro heq
  exact absurd ((page_eq_iff_of_alike alike_paddedVariables hpadded hbare).1 heq) (by decide)

end DocPortal.Site
