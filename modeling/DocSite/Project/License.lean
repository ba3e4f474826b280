/-
Licenses.

A license is recognised by phrases in its text. The first label in the list with a phrase that occurs
is the answer.
-/
import DocSite.Text.Basic

namespace DocSite

/-- Phrases and the labels that they stand for, in the order in which they are looked for. -/
def licenseMarkers : List (List String × String) :=
  [(["MIT License"], "MIT"),
    (["Apache License 2.0", "Apache-2.0", "Apache License, Version 2.0"], "Apache 2.0"),
    (["GNU General Public License", "GPL"], "GNU General Public License"),
    (["BSD 3-Clause"], "BSD 3-Clause"),
    (["BSD 2-Clause"], "BSD 2-Clause"),
    (["ISC License"], "ISC"),
    (["Mozilla Public License 2.0"], "MPL 2.0"),
    (["The Unlicense"], "Unlicense")]

/-- The label of a license without any of the phrases. -/
def customLicense : Text := "Custom License / Proprietary".toList

def detectLicense (text : Text) : Text :=
  let recognised := licenseMarkers.find? fun marker =>
    marker.1.any fun phrase => Text.includes phrase.toList text
  (recognised.map fun marker => marker.2.toList).getD customLicense

def licenseFiles : List Text :=
  ["LICENSE", "LICENSE.md", "LICENSE.txt"].map String.toList

end DocSite
