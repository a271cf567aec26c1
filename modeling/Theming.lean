import Theming.Text.Utf8
import Theming.Text.Printable
import Theming.Text.Quoted
import Theming.Number.Shortest
import Theming.Number.Layout
import Theming.Number.Read
import Theming.Sheet.Token
import Theming.Sheet.Lexeme
import Theming.Sheet.Position
import Theming.Sheet.SyntaxError
import Theming.Sheet.TokenStream
import Theming.Text.Outline
import Theming.Sheet.RawValue
import Theming.Sheet.StyleSheet
import Theming.Sheet.Parse
import Theming.Value.Enumeration
import Theming.Value.Type
import Theming.Resource.Provider
import Theming.Number.Convert
import Theming.Value.Image
import Theming.Value.Color
import Theming.Fault
import Theming.Text.Case
import Theming.Value.Font
import Theming.Picture.Raster
import Theming.Picture.Inflate
import Theming.Picture.Png
import Theming.Picture.Reading
import Theming.Picture.Gif
import Theming.Picture.Bmp
import Theming.Picture.Tiff
import Theming.Picture.Webp
import Theming.Picture.Jpeg
import Theming.Picture.Resample
import Theming.Picture.Digest
import Theming.Picture.Decode
import Theming.Markup.Xml
import Theming.Vector.Coverage
import Theming.Vector.Icon
import Theming.Vector.Render
import Theming.Text.Naming
import Theming.Widget.Kinds
import Theming.Lifecycle.Event
import Theming.Style.Status
import Theming.Config.OutputFormat
import Theming.Value.Value
import Theming.Value.Decoding
import Theming.Value.Coerce
import Theming.Text.Natural
import Theming.Text.Pinyin
import Theming.Text.Slug
import Theming.Text.Encoding
import Theming.Style.Catalog
import Theming.Style.Property
import Theming.Style.Outcome
import Theming.Style.Apply
import Theming.Widget.Widget
import Theming.Widget.Registry
import Theming.Widget.Render
import Theming.Theme.Theme
import Theming.Config.FileName
import Theming.Lifecycle.Tracker
import Theming.Resource.Usage
import Theming.Archive.Bundle
import Theming.Archive.Tree
import Theming.Archive.Zip
import Theming.Cli.Command
import Theming.Cli.Help
import Theming.Config.Decode
import Theming.Config.Load
import Theming.Config.Settings
import Theming.Log.Entry
import Theming.Main
import Theming.Picture.JpegWrite
import Theming.Picture.PngWrite
import Theming.Picture.BmpWrite
import Theming.Picture.GifWrite
import Theming.Picture.Deflate
import Theming.Picture.TiffWrite
import Theming.Program.Application
import Theming.Program.Commands
import Theming.Program.Inspect
import Theming.Program.Report
import Theming.Program.Session
import Theming.System.PathName
import Theming.System.Volume
import Theming.Text.Template
import Theming.Widget.Yaml
import Theming.Yaml.Emit
import Theming.Yaml.Node
import Theming.Yaml.Parse
import Theming.Yaml.Resolve
import Theming.Proofs.SheetGrammar
import Theming.Proofs.SheetParse
import Theming.Proofs.SheetReading
import Theming.Proofs.QuotedText
import Theming.Proofs.CoercionResults
import Theming.Proofs.PropertyPaths
import Theming.Proofs.StyleApplication
import Theming.Proofs.PropertyStores
import Theming.Proofs.LifecycleTraces
import Theming.Proofs.ResourceCaching
import Theming.Proofs.ReportEntries
import Theming.Proofs.PropertyLaws
import Theming.Proofs.PathWrites
import Theming.Proofs.StyleLaws
import Theming.Proofs.CoercionTable
import Theming.Proofs.NumericCoercion
import Theming.Proofs.ReaderFailures
import Theming.Proofs.LineNumbers
import Theming.Proofs.ErrorPositions
import Theming.Proofs.Doubles
import Theming.Proofs.FontResolution
import Theming.Proofs.NineSlice
import Theming.Proofs.TokenSpelling
import Theming.Proofs.LineEndings
import Theming.Proofs.ProviderChains
import Theming.Proofs.ViewEmbedding
import Theming.Proofs.DoubleValues
import Theming.Proofs.WidgetDrawing
import Theming.Proofs.DoubleRounding
import Theming.Proofs.IconSizes
import Theming.Proofs.PictureSizes
import Theming.Proofs.PathCleaning
import Theming.Proofs.BundlePaths
import Theming.Proofs.ThemeArguments
import Theming.Proofs.FileNames
import Theming.Proofs.ImageSizes
