import Cartouche.Embedding
import Cartouche.Legend.Reading
import Cartouche.Main
import Cartouche.Proofs.Compiled
import Cartouche.Proofs.ErrorPolicy
import Cartouche.Proofs.Linking
import Cartouche.Proofs.Contributions
import Cartouche.Proofs.Records
import Cartouche.Proofs.RecordByRecord
import Cartouche.Proofs.NumberOrder
import Cartouche.Proofs.Thresholds
import Cartouche.Proofs.LegendAgreement
import Cartouche.Proofs.Alike
import Cartouche.Proofs.Rotation
import Cartouche.Proofs.NullFields
import Cartouche.Proofs.Zeros
import Cartouche.Proofs.NumberTexts
import Cartouche.Proofs.TextRecords
import Cartouche.Proofs.Escaping
import Cartouche.Proofs.TagScan
import Cartouche.Proofs.Pictures
import Cartouche.Proofs.NodeIds
import Cartouche.Proofs.Spellings
import Cartouche.Proofs.RoundTrip
import Cartouche.Proofs.FrontEnds
import Cartouche.Proofs.OwnIds
import Cartouche.Proofs.LinkPass
import Cartouche.Proofs.TextForms
import Cartouche.Proofs.Walks
import Cartouche.Proofs.LegendRows
import Cartouche.Proofs.ExactValues
import Cartouche.Proofs.Rounding
import Cartouche.Proofs.Arithmetic
import Cartouche.Proofs.ScalePositions
import Cartouche.Proofs.ScaleSamples
import Cartouche.Proofs.LegendBinding
import Cartouche.Proofs.ColorTexts
import Cartouche.Proofs.ExactScales
import Cartouche.Proofs.Batches
import Cartouche.Proofs.PanelPlaces
import Cartouche.Proofs.StyleKinds
import Cartouche.Proofs.TwoReadings
import Cartouche.Proofs.CanvasSizes
import Cartouche.Proofs.SlugEnds
import Cartouche.Proofs.SortedReading
import Cartouche.Proofs.Allocation
import Cartouche.Proofs.SlugWords
import Cartouche.Proofs.HexColors
import Cartouche.Proofs.FixedTexts
