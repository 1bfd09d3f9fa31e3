import Phrasebook.Json.Strict
import Phrasebook.Localizer.Context
import Phrasebook.Main
import Phrasebook.Proofs.Localizer.Absence
import Phrasebook.Proofs.Localizer.Discipline
import Phrasebook.Proofs.Localizer.Piecewise
import Phrasebook.Proofs.Localizer.Reference
import Phrasebook.Proofs.Request.Diagnosis
import Phrasebook.Proofs.Request.Dump
import Phrasebook.Proofs.Request.RoundTrip
import Phrasebook.Proofs.Program.Interchange
import Phrasebook.Proofs.Resource.Flattening
import Phrasebook.Proofs.Template.Refusal
import Phrasebook.Proofs.Template.TwoPass
import Phrasebook.Request.Display
import Phrasebook.Proofs.Template.Placeholders
import Phrasebook.Proofs.Template.Assembly
import Phrasebook.Proofs.Request.Guarded
import Phrasebook.Proofs.Resource.Listing
import Phrasebook.Proofs.Settings.LanguageList
import Phrasebook.Proofs.Catalog.History
import Phrasebook.Proofs.Settings.LogFilter
import Phrasebook.Proofs.Escape.Fragments
import Phrasebook.Proofs.Request.Tiling
import Phrasebook.Proofs.Localizer.Disabled
