/-
# Further names

The names that characters have besides their first one: control codes, corrected
names and abbreviations.
-/

namespace EntryPoint.Text

/-- The further names of characters. -/
def furtherNames : String :=
  "0aNULaSOHaSTART OF TEXTaEND OF TEXTcTRANSMISSIONaENQaACKaALERTaBACKSPACEaCHARACTER TABULATION
  aEND OF LINEaLINE TABULATIONaFFaCARRIAGE RETURNaLOCKING-SHIFT ONEcZEROaDATA LINK ESCAPEaDC1aDC2
  aDC3aDC4aNAKaSYNaEND OF TRANSMISSION BLOCKaCANaEND OF MEDIUMaSUBaESCaFILE SEPARATOR
  aGROUP SEPARATORaINFORMATION SEPARATOR TWOcONEaSP|0aNULLaSTART OF HEADINGaSTXaETXaEOTaENQUIRY
  aACKNOWLEDGEaBELaBSaHORIZONTAL TABULATIONaEOLaVERTICAL TABULATIONaFORM FEEDaCRaSHIFT OUTbINaDLE
  aDEVICE CONTROL ONEcTWOcTHREEcFOURaNEGATIVE ACKNOWLEDGEaSYNCHRONOUS IDLEaETBaCANCELaEOM
  aSUBSTITUTEaESCAPEaFSaGSaRECORD SEPARATORaUNIT SEPARATOR|9aHTaLFaVT|9aTABaLINE FEED|AaNEW LINE
  |AaNL|EaSOaSI|1CaINFORMATION SEPARATOR FOURcTHREEaRSaUS|7FaDELaPADaHIGH OCTET PRESETaBPHaNBHaIND
  aNELaSSAaEND OF SELECTED AREAaCHARACTER TABULATION SETcWITH JUSTIFICATIONaLINE TABULATION SET
  aPARTIAL LINE DOWNcBACKWARDaREVERSE INDEXaSINGLE SHIFT TWOcTHREEaDCSaPRIVATE USE ONEcTWO
  aSET TRANSMIT STATEaCANCEL CHARACTERaMESSAGE WAITINGaSPAaEND OF GUARDED AREAaSOSaSGCaSCI
  aCONTROL SEQUENCE INTRODUCERaSTaOPERATING SYSTEM COMMANDaPMaAPCaNBSP|7FaDELETEaPADDING CHARACTER
  aHOPaBREAK PERMITTED HEREaNO BREAK HEREaINDEXaNEXT LINEaSTART OF SELECTED AREAaESA
  aHORIZONTAL TABULATION SETcWITH JUSTIFICATIONaVERTICAL TABULATION SETaPARTIAL LINE FORWARDcUP
  aREVERSE LINE FEEDaSINGLE-SHIFT-2c3aDEVICE CONTROL STRINGaPRIVATE USE-1c2aSTSaCCHaMW
  aSTART OF GUARDED AREAaEND OF PROTECTED AREAaSTART OF STRINGaSINGLE GRAPHIC CHARACTER INTRODUCER
  bCHARACTER INTRODUCERaCSIaSTRING TERMINATORaOSCaPRIVACY MESSAGEaAPPLICATION PROGRAM COMMAND
  |88aHTSaHTJaVTSaPLDaPLUaRIaSS2aSS3|91aPU1aPU2|96aSTART OF PROTECTED AREAaEPA|ADaSHY
  |1A2aLATIN CAPITAL LETTER GHAbSMALL LETTER GHA|34FaCGJ|61CaALM
  |709aSYRIAC SUBLINEAR COLON SKEWED LEFT|CDEaKANNADA LETTER LLLA|E9DaLAO LETTER FO FON
  |E9FaLAO LETTER FO FAY|EA3aLAO LETTER RO|EA5aLAO LETTER LO
  |FD0aTIBETAN MARK BKA- SHOG GI MGO RGYAN|11ECaHANGUL JONGSEONG YESIEUNG-KIYEOKdSSANGKIYEOK
  cSSANGYESIEUNGcYESIEUNG-KHIEUKH|180BaFVS1aFVS2aFVS3aMVSaFVS4|200BaZWSPaZWNJaZWJaLRMaRLM|202AaLRE
  aRLEaPDFaLROaRLOaNNBSP|205FaMMSPaWJ|2066aLRIaRLIaFSIaPDI|2118aWEIERSTRASS ELLIPTIC FUNCTION
  |2448aMICR ON US SYMBOLbDASH SYMBOL
  |2B7AaLEFTWARDS TRIANGLE-HEADED ARROW WITH DOUBLE VERTICAL STROKE
  |2B7CaRIGHTWARDS TRIANGLE-HEADED ARROW WITH DOUBLE VERTICAL STROKE
  |A015aYI SYLLABLE ITERATION MARK|AA6EaMYANMAR LETTER KHAMTI LLA|FE00aVS1aVS2aVS3aVS4aVS5aVS6aVS7
  aVS8aVS9aVS10aVS11aVS12aVS13aVS14aVS15aVS16
  |FE18aPRESENTATION FORM FOR VERTICAL RIGHT WHITE LENTICULAR BRACKET|FEFFaBOM
  |FEFFaBYTE ORDER MARK|FEFFaZWNBSP|122D4aCUNEIFORM SIGN NU11 TENUdOVER NU11 BUR OVER BUR
  |16E56aMEDEFAIDRIN CAPITAL LETTER HdNG|16E76aMEDEFAIDRIN SMALL LETTER HdNG
  |1B001aHENTAIGANA LETTER E-1|1D0C5aBYZANTINE MUSICAL SYMBOL FTHORA SKLIRON CHROMA VASIS
  |E0100aVS17aVS18aVS19aVS20aVS21aVS22aVS23aVS24aVS25aVS26aVS27aVS28aVS29aVS30aVS31aVS32aVS33aVS34
  aVS35aVS36aVS37aVS38aVS39aVS40aVS41aVS42aVS43aVS44aVS45aVS46aVS47aVS48aVS49aVS50aVS51aVS52aVS53
  aVS54aVS55aVS56aVS57aVS58aVS59aVS60aVS61aVS62aVS63aVS64aVS65aVS66aVS67aVS68aVS69aVS70aVS71aVS72
  aVS73aVS74aVS75aVS76aVS77aVS78aVS79aVS80aVS81aVS82aVS83aVS84aVS85aVS86aVS87aVS88aVS89aVS90aVS91
  aVS92aVS93aVS94aVS95aVS96aVS97aVS98aVS99aVS100aVS101aVS102aVS103aVS104aVS105aVS106aVS107aVS108
  aVS109aVS110aVS111aVS112aVS113aVS114aVS115aVS116aVS117aVS118aVS119aVS120aVS121aVS122aVS123aVS124
  aVS125aVS126aVS127aVS128aVS129aVS130aVS131aVS132aVS133aVS134aVS135aVS136aVS137aVS138aVS139aVS140
  aVS141aVS142aVS143aVS144aVS145aVS146aVS147aVS148aVS149aVS150aVS151aVS152aVS153aVS154aVS155aVS156
  aVS157aVS158aVS159aVS160aVS161aVS162aVS163aVS164aVS165aVS166aVS167aVS168aVS169aVS170aVS171aVS172
  aVS173aVS174aVS175aVS176aVS177aVS178aVS179aVS180aVS181aVS182aVS183aVS184aVS185aVS186aVS187aVS188
  aVS189aVS190aVS191aVS192aVS193aVS194aVS195aVS196aVS197aVS198aVS199aVS200aVS201aVS202aVS203aVS204
  aVS205aVS206aVS207aVS208aVS209aVS210aVS211aVS212aVS213aVS214aVS215aVS216aVS217aVS218aVS219aVS220
  aVS221aVS222aVS223aVS224aVS225aVS226aVS227aVS228aVS229aVS230aVS231aVS232aVS233aVS234aVS235aVS236
  aVS237aVS238aVS239aVS240aVS241aVS242aVS243aVS244aVS245aVS246aVS247aVS248aVS249aVS250aVS251aVS252
  aVS253aVS254aVS255aVS256"

end EntryPoint.Text
