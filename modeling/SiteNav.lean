import SiteNav.Main
import SiteNav.Route.Print
import SiteNav.Route.Relation
import SiteNav.Session.Run
import SiteNav.Text.Search
import SiteNav.Proofs.Route.Segments
import SiteNav.Proofs.Route.Language
import SiteNav.Proofs.Route.Report
import SiteNav.Proofs.Route.Ending
import SiteNav.Proofs.Text.Percent
import SiteNav.Proofs.Text.Search
import SiteNav.Proofs.Text.Truncation
import SiteNav.Proofs.Link
import SiteNav.Proofs.Anchor
import SiteNav.Proofs.Html
import SiteNav.Proofs.Session.Change
import SiteNav.Proofs.Session.LinkList
import SiteNav.Proofs.Session.LinkReading
import SiteNav.Proofs.Session.App
import SiteNav.Proofs.Session.After
import SiteNav.Proofs.Session.Crash
import SiteNav.Proofs.Session.Registration
import SiteNav.Proofs.Session.BarList
import SiteNav.Proofs.Session.Delivery
import SiteNav.Proofs.Session.BarSnapshot
import SiteNav.Proofs.Session.FirstBuilder
import SiteNav.Proofs.Session.Trail
import SiteNav.Proofs.Session.Walk
import SiteNav.Proofs.Session.Rebase
import SiteNav.Proofs.Session.Head
import SiteNav.Proofs.Session.Warning
import SiteNav.Proofs.Session.Rerun
